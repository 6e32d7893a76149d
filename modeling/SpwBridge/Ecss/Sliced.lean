import SpwBridge.Ecss.Crc16

open shift_register words

namespace spw_bridge.ecss

/-- The loop over `k` for one `n`: each entry is made of the one before it. -/
def crc16_nested_entry (lut : Crc16SlicedLut) (n : UInt8) : Nat → UInt16
  | 0 => lut 0 n
  | k + 1 =>
    let crc := crc16_nested_entry lut n k
    lut 0 ((crc >>> 8) &&& 0xff).toUInt8 ^^^ (crc <<< 8)

def crc16_init_sliced_lookup_table (lut : Crc16SlicedLut) : Crc16SlicedLut :=
  let lut := crc_init_lookup_table lut
  let lut : Crc16SlicedLut := fun k n => if k = 0 then crc16_LUT lut n else lut k n
  fun k n => crc16_nested_entry lut n k

/-- The variables of the sliced loops: the index of `next` in the buffer, the
bytes left and the register. -/
structure SliceState where
  next : Nat
  len : Nat
  crc : UInt16

/-- The loop `while (len >= size && more) { ...; next += size; len -= size; }`
where `word` gives the register after the bytes at `next`. -/
def crc16_slice_loop (size : Nat) [NeZero size] (more : Nat → Bool) (word : Nat → UInt16 → Except Fault UInt16)
    (s : SliceState) : Except Fault SliceState :=
  if size ≤ s.len ∧ more s.next then do
    let crc ← word s.next s.crc
    crc16_slice_loop size more word { next := s.next + size, len := s.len - size, crc }
  else .ok s
termination_by s.len
decreasing_by
  have hne := NeZero.ne size
  omega

/-- The statement of the head and the tail loop. -/
def crc16_slice_byte (lut : Crc16SlicedLut) (buf : List UInt8) (next : Nat) (crc : UInt16) :
    Except Fault UInt16 := do
  let b ← rd buf next
  .ok (lut 0 (((crc >>> 8) ^^^ b.toUInt16) &&& 0xff).toUInt8 ^^^ (crc <<< 8))

/-- `n = *(uint16_t *)next`. -/
def load_uint16 (big_endian : Bool) (buf : List UInt8) (next : Nat) : Except Fault UInt16 := do
  let b0 ← rd buf next
  let b1 ← rd buf (next + 1)
  .ok (if big_endian then be16 b0 b1 else be16 b1 b0)

/-- `n = *(uint32_t *)next`. -/
def load_uint32 (big_endian : Bool) (buf : List UInt8) (next : Nat) : Except Fault UInt32 := do
  let b0 ← rd buf next
  let b1 ← rd buf (next + 1)
  let b2 ← rd buf (next + 2)
  let b3 ← rd buf (next + 3)
  .ok (if big_endian then be32 b0 b1 b2 b3 else be32 b3 b2 b1 b0)

/-- `n = *(uint64_t *)next`. -/
def load_uint64 (big_endian : Bool) (buf : List UInt8) (next : Nat) : Except Fault UInt64 := do
  let b0 ← rd buf next
  let b1 ← rd buf (next + 1)
  let b2 ← rd buf (next + 2)
  let b3 ← rd buf (next + 3)
  let b4 ← rd buf (next + 4)
  let b5 ← rd buf (next + 5)
  let b6 ← rd buf (next + 6)
  let b7 ← rd buf (next + 7)
  .ok (if big_endian then be64 b0 b1 b2 b3 b4 b5 b6 b7 else be64 b7 b6 b5 b4 b3 b2 b1 b0)

def crc16_slice2_word (lut : Crc16SlicedLut) (big_endian : Bool) (buf : List UInt8) (next : Nat) (crc : UInt16) :
    Except Fault UInt16 := do
  let n ← load_uint16 big_endian buf next
  let hi := ((crc >>> 8) &&& 0xff).toUInt8
  let lo := ((crc >>> 0) &&& 0xff).toUInt8
  let (idx0, idx1) :=
    if big_endian then (((n >>> 8) &&& 0xff).toUInt8 ^^^ hi, ((n >>> 0) &&& 0xff).toUInt8 ^^^ lo)
    else (((n >>> 0) &&& 0xff).toUInt8 ^^^ hi, ((n >>> 8) &&& 0xff).toUInt8 ^^^ lo)
  .ok (lut 1 idx0 ^^^ lut 0 idx1)

def crc16_slice4_word (lut : Crc16SlicedLut) (big_endian : Bool) (buf : List UInt8) (next : Nat) (crc : UInt16) :
    Except Fault UInt16 := do
  let n ← load_uint32 big_endian buf next
  let hi := ((crc >>> 8) &&& 0xff).toUInt8
  let lo := ((crc >>> 0) &&& 0xff).toUInt8
  let (idx0, idx1, idx2, idx3) :=
    if big_endian then
      (((n >>> 24) &&& 0xff).toUInt8 ^^^ hi, ((n >>> 16) &&& 0xff).toUInt8 ^^^ lo,
        ((n >>> 8) &&& 0xff).toUInt8, ((n >>> 0) &&& 0xff).toUInt8)
    else
      (((n >>> 0) &&& 0xff).toUInt8 ^^^ hi, ((n >>> 8) &&& 0xff).toUInt8 ^^^ lo,
        ((n >>> 16) &&& 0xff).toUInt8, ((n >>> 24) &&& 0xff).toUInt8)
  .ok (lut 3 idx0 ^^^ lut 2 idx1 ^^^ lut 1 idx2 ^^^ lut 0 idx3)

def crc16_slice8_word (lut : Crc16SlicedLut) (big_endian : Bool) (buf : List UInt8) (next : Nat) (crc : UInt16) :
    Except Fault UInt16 := do
  let n ← load_uint64 big_endian buf next
  let hi := ((crc >>> 8) &&& 0xff).toUInt8
  let lo := ((crc >>> 0) &&& 0xff).toUInt8
  let (idx0, idx1, idx2, idx3, idx4, idx5, idx6, idx7) :=
    if big_endian then
      (((n >>> 56) &&& 0xff).toUInt8 ^^^ hi, ((n >>> 48) &&& 0xff).toUInt8 ^^^ lo,
        ((n >>> 40) &&& 0xff).toUInt8, ((n >>> 32) &&& 0xff).toUInt8,
        ((n >>> 24) &&& 0xff).toUInt8, ((n >>> 16) &&& 0xff).toUInt8,
        ((n >>> 8) &&& 0xff).toUInt8, ((n >>> 0) &&& 0xff).toUInt8)
    else
      (((n >>> 0) &&& 0xff).toUInt8 ^^^ hi, ((n >>> 8) &&& 0xff).toUInt8 ^^^ lo,
        ((n >>> 16) &&& 0xff).toUInt8, ((n >>> 24) &&& 0xff).toUInt8,
        ((n >>> 32) &&& 0xff).toUInt8, ((n >>> 40) &&& 0xff).toUInt8,
        ((n >>> 48) &&& 0xff).toUInt8, ((n >>> 56) &&& 0xff).toUInt8)
  .ok (lut 7 idx0 ^^^ lut 6 idx1 ^^^ lut 5 idx2 ^^^ lut 4 idx3 ^^^
    lut 3 idx4 ^^^ lut 2 idx5 ^^^ lut 1 idx6 ^^^ lut 0 idx7)

/-- A sliced CRC of a buffer at the address `addr`: bytes up to a dword
boundary, words, and the tail bytes. -/
def crc16_slice (size : Nat) [NeZero size] (lut : Crc16SlicedLut) (addr : Nat) (buf : List UInt8) (len : Nat)
    (word : Nat → UInt16 → Except Fault UInt16) : Except Fault UInt16 := do
  let s : SliceState := { next := 0, len := len, crc := 0xffff }
  let s ← crc16_slice_loop 1 (fun next => (addr + next) &&& 0x7 != 0) (crc16_slice_byte lut buf) s
  let s ← crc16_slice_loop size (fun _ => true) word s
  let s ← crc16_slice_loop 1 (fun _ => true) (crc16_slice_byte lut buf) s
  .ok s.crc

def crc16_slice2 (lut : Crc16SlicedLut) (big_endian : Bool) (addr : Nat) (buf : List UInt8) (len : Nat) :
    Except Fault UInt16 :=
  crc16_slice 2 lut addr buf len (crc16_slice2_word lut big_endian buf)

def crc16_slice4 (lut : Crc16SlicedLut) (big_endian : Bool) (addr : Nat) (buf : List UInt8) (len : Nat) :
    Except Fault UInt16 :=
  crc16_slice 4 lut addr buf len (crc16_slice4_word lut big_endian buf)

def crc16_slice8 (lut : Crc16SlicedLut) (big_endian : Bool) (addr : Nat) (buf : List UInt8) (len : Nat) :
    Except Fault UInt16 :=
  crc16_slice 8 lut addr buf len (crc16_slice8_word lut big_endian buf)

theorem initialised_sliced (lut : Crc16SlicedLut) : Initialised (crc16_init_sliced_lookup_table lut) := rfl

/-- The byte statement of the sliced loops is `crc16` without its mask. -/
theorem slice_byte_eq (lut : Crc16SlicedLut) (b : UInt8) (crc : UInt16) :
    lut 0 (((crc >>> 8) ^^^ b.toUInt16) &&& 0xff).toUInt8 ^^^ (crc <<< 8) = crc16 lut b crc := by
  obtain ⟨hi, lo, rfl⟩ := eq_be16 crc
  simp only [crc16, crc16_LUT]
  rw [masked_shift, be16_shiftLeft, UInt16.xor_comm]

/-- Each entry of the nested tables is the register, from zero, after the byte
and as many zeros as the slice lies ahead of the last. -/
theorem nested_entry_eq (lut : Crc16SlicedLut) (n : UInt8) (k : Nat) :
    crc16_nested_entry (crc_init_lookup_table lut) n k = ccitt_run 0 (n :: List.replicate k 0) := by
  have hlut := initialised_init lut
  induction k with
  | zero =>
    rw [List.replicate_zero, ccitt_run_byte hlut]
    change _ = crc16 _ n (be16 0 0)
    rw [crc16_be16 hlut]
    simp [be16, crc16_nested_entry, crc_init_lookup_table]
  | succ k ih =>
    have hstep := slice_byte_eq (crc_init_lookup_table lut) 0 (ccitt_run 0 (n :: List.replicate k 0))
    rw [List.replicate_succ', ← List.cons_append, ccitt_run_append, ccitt_run_byte hlut, ← hstep]
    simp only [crc16_nested_entry, ih]
    congr 4
    exact (UInt16.xor_zero).symm

theorem sliced_entry_eq (lut : Crc16SlicedLut) (k : Fin SLICES) (n : UInt8) :
    crc16_init_sliced_lookup_table lut k n = ccitt_run 0 (n :: List.replicate k 0) := by
  have hcopy : (fun k n => if k = 0 then crc16_LUT (crc_init_lookup_table lut) n
      else crc_init_lookup_table lut k n) = crc_init_lookup_table lut := by
    funext k n
    split
    case isTrue h => rw [h, crc16_LUT]
    case isFalse => rfl
  rw [← nested_entry_eq lut n k, crc16_init_sliced_lookup_table]
  simp only [hcopy]

theorem ccitt_run_xor (a c : UInt16) (first second : List UInt8) (hlen : first.length = second.length) :
    ccitt_run (a ^^^ c) (List.zipWith (· ^^^ ·) first second) = ccitt_run a first ^^^ ccitt_run c second := by
  have hbitlen : (first.flatMap bits_msb).length = (second.flatMap bits_msb).length := by
    rw [length_flatMap_order length_bits_msb, length_flatMap_order length_bits_msb, hlen]
  apply UInt16.toBitVec_inj.mp
  rw [UInt16.toBitVec_xor, ccitt_run, flatMap_order_xor length_bits_msb bits_msb_xor hlen, UInt16.toBitVec_xor]
  exact ccitt.run_xor _ _ hbitlen

theorem zipWith_zeros (bs : List UInt8) : List.zipWith (· ^^^ ·) (List.replicate bs.length 0) bs = bs := by
  induction bs with
  | nil => rfl
  | cons b bs ih => rw [List.length_cons, List.replicate_succ, List.zipWith_cons_cons, ih, UInt8.zero_xor]

/-- From zero, the first byte counts as if only zeros followed it. -/
theorem ccitt_run_zero_cons (b : UInt8) (bs : List UInt8) :
    ccitt_run 0 (b :: bs) = ccitt_run 0 (b :: List.replicate bs.length 0) ^^^ ccitt_run 0 bs := by
  have hskip : ccitt_run 0 (0 :: bs) = ccitt_run 0 bs := by
    rw [ccitt_run_cons (initialised_init fun _ _ => 0)]
    rfl
  have hsum := ccitt_run_xor 0 0 (b :: List.replicate bs.length 0) (0 :: bs) (by simp)
  rw [List.zipWith_cons_cons, zipWith_zeros, UInt8.xor_zero, UInt16.xor_self, hskip] at hsum
  exact hsum

/-- The entries for the bytes of a word, each from the slice that has as many
zeros as bytes follow. -/
def slice_sum : List UInt8 → UInt16
  | [] => 0
  | b :: bs => ccitt_run 0 (b :: List.replicate bs.length 0) ^^^ slice_sum bs

theorem ccitt_run_zero_eq_sum (bs : List UInt8) : ccitt_run 0 bs = slice_sum bs := by
  induction bs with
  | nil => rfl
  | cons b bs ih => rw [ccitt_run_zero_cons, ih, slice_sum]

/-- The value of the register can be added to the first two bytes instead. -/
theorem ccitt_run_fold_in (hi lo b0 b1 : UInt8) (bs : List UInt8) :
    ccitt_run (be16 hi lo) (b0 :: b1 :: bs) = ccitt_run 0 ((b0 ^^^ hi) :: (b1 ^^^ lo) :: bs) := by
  have hpair : ccitt_run (be16 hi lo) [b0, b1] = ccitt_run 0 [b0 ^^^ hi, b1 ^^^ lo] := by
    apply UInt16.toBitVec_inj.mp
    rw [ccitt_run_pair, ccitt_run_pair, UInt16.zero_xor, UInt16.xor_comm, be16_xor]
  change ccitt_run _ ([b0, b1] ++ bs) = ccitt_run _ ([b0 ^^^ hi, b1 ^^^ lo] ++ bs)
  rw [ccitt_run_append, hpair, ccitt_run_append]

/-- The bytes at `next` are within the buffer and run the register to what the
loop statement gives. -/
def RunsBytes (buf : List UInt8) (size : Nat) (word : Nat → UInt16 → Except Fault UInt16) : Prop :=
  ∀ next crc, next + size ≤ buf.length →
    word next crc = .ok (ccitt_run crc ((buf.drop next).take size))

theorem slice_byte_runs (lut : Crc16SlicedLut) (buf : List UInt8) :
    RunsBytes buf 1 (crc16_slice_byte (crc16_init_sliced_lookup_table lut) buf) := by
  intro next crc hin
  have hnext : next < buf.length := by omega
  rw [drop_eq_byteAt_cons hnext, List.take_succ_cons, List.take_zero, ccitt_run_byte (initialised_sliced lut),
    crc16_slice_byte, rd_ok hnext, bind_ok, slice_byte_eq]

theorem mask_byte32 (x : UInt32) : (x &&& 0xff).toUInt8 = x.toUInt8 := by
  rw [UInt32.toUInt8_and]
  exact UInt8.and_neg_one

theorem mask_byte64 (x : UInt64) : (x &&& 0xff).toUInt8 = x.toUInt8 := by
  rw [UInt64.toUInt8_and]
  exact UInt8.and_neg_one

theorem slice2_word_runs (lut : Crc16SlicedLut) (big_endian : Bool) (buf : List UInt8) :
    RunsBytes buf 2 (crc16_slice2_word (crc16_init_sliced_lookup_table lut) big_endian buf) := by
  intro next crc hin
  obtain ⟨hi, lo, rfl⟩ := eq_be16 crc
  have hbytes : (buf.drop next).take 2 = [byteAt buf next, byteAt buf (next + 1)] := by
    rw [drop_eq_byteAt_cons (by omega), drop_eq_byteAt_cons (by omega)]
    rfl
  rw [hbytes, ccitt_run_fold_in, ccitt_run_zero_eq_sum]
  simp (disch := omega) only [crc16_slice2_word, load_uint16, rd_ok, bind_ok, sliced_entry_eq, byte_of_low]
  cases big_endian
  · simp [bytes_be16, slice_sum]
  · simp [bytes_be16, slice_sum]

theorem slice4_word_runs (lut : Crc16SlicedLut) (big_endian : Bool) (buf : List UInt8) :
    RunsBytes buf 4 (crc16_slice4_word (crc16_init_sliced_lookup_table lut) big_endian buf) := by
  intro next crc hin
  obtain ⟨hi, lo, rfl⟩ := eq_be16 crc
  have hbytes : (buf.drop next).take 4 =
      [byteAt buf next, byteAt buf (next + 1), byteAt buf (next + 2), byteAt buf (next + 3)] := by
    rw [drop_eq_byteAt_cons (by omega), drop_eq_byteAt_cons (by omega), drop_eq_byteAt_cons (by omega),
      drop_eq_byteAt_cons (by omega)]
    rfl
  rw [hbytes, ccitt_run_fold_in, ccitt_run_zero_eq_sum]
  simp (disch := omega) only [crc16_slice4_word, load_uint32, rd_ok, bind_ok, sliced_entry_eq, byte_of_low,
    mask_byte32, UInt16.xor_assoc]
  cases big_endian
  · simp [bytes_be16, bytes_be32, slice_sum, SLICES]
  · simp [bytes_be16, bytes_be32, slice_sum, SLICES]

theorem slice8_word_runs (lut : Crc16SlicedLut) (big_endian : Bool) (buf : List UInt8) :
    RunsBytes buf 8 (crc16_slice8_word (crc16_init_sliced_lookup_table lut) big_endian buf) := by
  intro next crc hin
  obtain ⟨hi, lo, rfl⟩ := eq_be16 crc
  have hbytes : (buf.drop next).take 8 =
      [byteAt buf next, byteAt buf (next + 1), byteAt buf (next + 2), byteAt buf (next + 3),
        byteAt buf (next + 4), byteAt buf (next + 5), byteAt buf (next + 6), byteAt buf (next + 7)] := by
    rw [drop_eq_byteAt_cons (by omega), drop_eq_byteAt_cons (by omega), drop_eq_byteAt_cons (by omega),
      drop_eq_byteAt_cons (by omega), drop_eq_byteAt_cons (by omega), drop_eq_byteAt_cons (by omega),
      drop_eq_byteAt_cons (by omega), drop_eq_byteAt_cons (by omega)]
    rfl
  rw [hbytes, ccitt_run_fold_in, ccitt_run_zero_eq_sum]
  simp (disch := omega) only [crc16_slice8_word, load_uint64, rd_ok, bind_ok, sliced_entry_eq, byte_of_low,
    mask_byte64, UInt16.xor_assoc]
  cases big_endian
  · simp [bytes_be16, bytes_be64, slice_sum, SLICES]
  · simp [bytes_be16, bytes_be64, slice_sum, SLICES]

/-- What the loops keep: the index and the bytes left add up, and the register
is that of the bytes before the index. -/
structure SliceState.Follows (s : SliceState) (buf : List UInt8) (len : Nat) : Prop where
  consumed : s.next + s.len = len
  crc : s.crc = ccitt_run 0xffff (buf.take s.next)

/-- The bytes of one round run the register on. -/
theorem SliceState.Follows.advance {s : SliceState} {buf : List UInt8} {len size : Nat}
    (h : s.Follows buf len) (hsize : size ≤ s.len) :
    SliceState.Follows
      { next := s.next + size, len := s.len - size, crc := ccitt_run s.crc ((buf.drop s.next).take size) }
      buf len := by
  have hconsumed := h.consumed
  refine ⟨?_, ?_⟩
  · simp only
    omega
  · simp only [h.crc]
    rw [← ccitt_run_append, ← List.take_add]

/-- A loop whose statement runs the register on ends with that invariant kept,
and it ends when too few bytes are left or its condition fails. -/
theorem slice_loop_ok {size : Nat} [NeZero size] (more : Nat → Bool) {word : Nat → UInt16 → Except Fault UInt16}
    {buf : List UInt8} {len : Nat} (hword : RunsBytes buf size word) (hlen : len ≤ buf.length) {s : SliceState}
    (h : s.Follows buf len) :
    ∃ t, crc16_slice_loop size more word s = .ok t ∧ t.Follows buf len ∧
      (t.len < size ∨ more t.next = false) := by
  induction hleft : s.len using Nat.strong_induction_on generalizing s with
  | _ left ih =>
    have hne := NeZero.ne size
    have hconsumed := h.consumed
    rw [crc16_slice_loop]
    by_cases hgo : size ≤ s.len ∧ more s.next
    · rw [if_pos hgo, hword s.next s.crc (by omega), bind_ok]
      exact ih (s.len - size) (by omega) (h.advance hgo.1) rfl
    · rw [if_neg hgo]
      refine ⟨s, rfl, h, ?_⟩
      by_cases hfew : s.len < size
      · exact Or.inl hfew
      · simp only [not_and, Nat.not_lt] at hgo hfew
        exact Or.inr (by simpa using hgo hfew)

/-- Head, words and tail: whatever the address and the word, the register after
all bytes. -/
theorem crc16_slice_ok {size : Nat} [NeZero size] (lut : Crc16SlicedLut) (addr : Nat) {buf : List UInt8}
    {len : Nat} {word : Nat → UInt16 → Except Fault UInt16} (hword : RunsBytes buf size word)
    (hlen : len ≤ buf.length) :
    crc16_slice size (crc16_init_sliced_lookup_table lut) addr buf len word =
      .ok (ccitt_run 0xffff (buf.take len)) := by
  have hbyte := slice_byte_runs lut buf
  have hstart : SliceState.Follows { next := 0, len := len, crc := 0xffff } buf len := ⟨by simp, by simp⟩
  obtain ⟨head, hhead, hfollows, _⟩ := slice_loop_ok (fun next => (addr + next) &&& 0x7 != 0) hbyte hlen hstart
  obtain ⟨body, hbody, hfollows, _⟩ := slice_loop_ok (fun _ => true) hword hlen hfollows
  obtain ⟨tail, htail, hfollows, hend⟩ := slice_loop_ok (fun _ => true) hbyte hlen hfollows
  have hall : tail.next = len := by
    have hconsumed := hfollows.consumed
    simp only [Bool.true_eq_false, or_false] at hend
    omega
  rw [crc16_slice, hhead, bind_ok, hbody, bind_ok, htail, bind_ok, hfollows.crc, hall]

/-- The sliced CRCs are the CRC by bytes, for every length, every alignment of
the buffer and either byte order. -/
theorem crc16_slices_eq_crc16_buf (lut : Crc16SlicedLut) (big_endian : Bool) (addr : Nat) (buf : List UInt8)
    (len : Nat) (hlen : len ≤ buf.length) :
    crc16_slice2 (crc16_init_sliced_lookup_table lut) big_endian addr buf len =
        crc16_buf (crc16_init_sliced_lookup_table lut) (some buf) len ∧
      crc16_slice4 (crc16_init_sliced_lookup_table lut) big_endian addr buf len =
        crc16_buf (crc16_init_sliced_lookup_table lut) (some buf) len ∧
      crc16_slice8 (crc16_init_sliced_lookup_table lut) big_endian addr buf len =
        crc16_buf (crc16_init_sliced_lookup_table lut) (some buf) len := by
  rw [crc16_buf_ok (initialised_sliced lut) hlen]
  refine ⟨?_, ?_, ?_⟩
  · exact crc16_slice_ok lut addr (slice2_word_runs lut big_endian buf) hlen
  · exact crc16_slice_ok lut addr (slice4_word_runs lut big_endian buf) hlen
  · exact crc16_slice_ok lut addr (slice8_word_runs lut big_endian buf) hlen

/-- Nine bytes from an odd address. -/
theorem crc16_slices_eq_crc16_buf_nine :
    crc16_slice8 (crc16_init_sliced_lookup_table fun _ _ => 0) false 3 [1, 2, 3, 4, 5, 6, 7, 8, 9] 9 =
      crc16_buf (crc16_init_sliced_lookup_table fun _ _ => 0) (some [1, 2, 3, 4, 5, 6, 7, 8, 9]) 9 :=
  (crc16_slices_eq_crc16_buf (fun _ _ => 0) false 3 [1, 2, 3, 4, 5, 6, 7, 8, 9] 9 (by decide)).2.2

end spw_bridge.ecss
