import Mathlib.Data.List.GetD

namespace spw_bridge

/-- Undefined behaviour of an array access: a read or a write outside the
array, or any access through a null pointer. -/
inductive Fault
  | read (index : Nat)
  | write (index : Nat)
  | null
  deriving DecidableEq, Repr

theorem bind_eq_ok_iff {A B : Type} {x : Except Fault A} {f : A → Except Fault B} {y : B} :
    (x >>= f) = .ok y ↔ ∃ a, x = .ok a ∧ f a = .ok y := by
  cases x <;> simp [Bind.bind, Except.bind]

@[simp] theorem bind_ok {A B : Type} (a : A) (f : A → Except Fault B) :
    ((Except.ok a : Except Fault A) >>= f) = f a := rfl

@[simp] theorem bind_error {A B : Type} (e : Fault) (f : A → Except Fault B) :
    ((Except.error e : Except Fault A) >>= f) = .error e := rfl

/-- The value of `buf[i]`; zero outside the buffer, where `rd` faults. -/
def byteAt (buf : List UInt8) (i : Nat) : UInt8 := buf.getD i 0

/-- The checked read `buf[i]`. -/
def rd (buf : List UInt8) (i : Nat) : Except Fault UInt8 :=
  if i < buf.length then .ok (byteAt buf i) else .error (.read i)

/-- The checked read `ptr[i]` through a pointer that may be null. -/
def rdp (ptr : Option (List UInt8)) (i : Nat) : Except Fault UInt8 :=
  match ptr with
  | none => .error .null
  | some buf => rd buf i

/-- The checked write `buf[i] = b`. -/
def wr (buf : List UInt8) (i : Nat) (b : UInt8) : Except Fault (List UInt8) :=
  if i < buf.length then .ok (buf.set i b) else .error (.write i)

/-- The loop `for (i = 0; i < n; i++) *out++ = ptr[off + i]` into a buffer
that the bytes are appended to. -/
def read_loop (ptr : Option (List UInt8)) (off : Nat) : Nat → Except Fault (List UInt8)
  | 0 => .ok []
  | n + 1 => do
    let b ← rdp ptr off
    let bs ← read_loop ptr (off + 1) n
    .ok (b :: bs)

/-- The loop `for (i = 0; i < n; i++) dst[doff + i] = src[soff + i]`. -/
def copy_loop (dst : List UInt8) (doff : Nat) (src : List UInt8) (soff : Nat) :
    Nat → Except Fault (List UInt8)
  | 0 => .ok dst
  | n + 1 => do
    let b ← rd src soff
    let dst ← wr dst doff b
    copy_loop dst (doff + 1) src (soff + 1) n

theorem rd_ok {buf : List UInt8} {i : Nat} (h : i < buf.length) : rd buf i = .ok (byteAt buf i) := by
  simp [rd, h]

theorem byteAt_eq_getElem {buf : List UInt8} {i : Nat} (h : i < buf.length) : byteAt buf i = buf[i] := by
  simp [byteAt, List.getD, h]

@[simp] theorem byteAt_cons_zero (b : UInt8) (buf : List UInt8) : byteAt (b :: buf) 0 = b := rfl

@[simp] theorem byteAt_cons_succ (b : UInt8) (buf : List UInt8) (i : Nat) :
    byteAt (b :: buf) (i + 1) = byteAt buf i := rfl

theorem byteAt_take {buf : List UInt8} {n i : Nat} (h : i < n) : byteAt (buf.take n) i = byteAt buf i := by
  simp [byteAt, List.getD, h]

theorem byteAt_eq_zero {buf : List UInt8} {i : Nat} (h : buf.length ≤ i) : byteAt buf i = 0 := by
  simp [byteAt, List.getD, h]

theorem byteAt_append_right (front back : List UInt8) (i : Nat) :
    byteAt (front ++ back) (front.length + i) = byteAt back i := by
  rw [byteAt, byteAt, List.getD_append_right _ _ _ _ (by omega), Nat.add_sub_cancel_left]

theorem drop_eq_byteAt_cons {buf : List UInt8} {i : Nat} (h : i < buf.length) :
    buf.drop i = byteAt buf i :: buf.drop (i + 1) := by
  rw [List.drop_eq_getElem_cons h, byteAt_eq_getElem h]

/-- Reading inside the array gives that stretch of it. -/
theorem read_loop_ok {buf : List UInt8} {off n : Nat} (h : off + n ≤ buf.length) :
    read_loop (some buf) off n = .ok ((buf.drop off).take n) := by
  induction n generalizing off with
  | zero => simp [read_loop]
  | succ n ih =>
    have hoff : off < buf.length := by omega
    rw [read_loop, rdp, rd_ok hoff, bind_ok, ih (by omega), bind_ok, drop_eq_byteAt_cons hoff,
      List.take_succ_cons]

/-- A copy that stays inside both arrays replaces exactly that stretch of the
destination. -/
theorem copy_loop_ok {dst src : List UInt8} {doff soff n : Nat}
    (hdst : doff + n ≤ dst.length) (hsrc : soff + n ≤ src.length) :
    copy_loop dst doff src soff n =
      .ok (dst.take doff ++ (src.drop soff).take n ++ dst.drop (doff + n)) := by
  induction n generalizing dst doff soff with
  | zero => simp [copy_loop]
  | succ n ih =>
    have hs : soff < src.length := by omega
    have hd : doff < dst.length := by omega
    rw [copy_loop, rd_ok hs, bind_ok, wr, if_pos hd, bind_ok, ih (by simp; omega) (by omega),
      drop_eq_byteAt_cons hs, List.take_succ_cons, List.take_add_one]
    have hrest : (dst.set doff (byteAt src soff)).drop (doff + 1 + n) = dst.drop (doff + (n + 1)) := by
      rw [List.drop_set_of_lt (by omega)]
      congr 1
      omega
    have hkept : (dst.set doff (byteAt src soff)).take doff = dst.take doff := by
      rw [List.take_set_of_le (by omega)]
    rw [hrest, hkept]
    simp [hd]

/-- Filling a fresh array of exactly the copied length. -/
theorem copy_loop_fresh {src : List UInt8} {soff n : Nat} (hsrc : soff + n ≤ src.length) :
    copy_loop (List.replicate n 0) 0 src soff n = .ok ((src.drop soff).take n) := by
  rw [copy_loop_ok (by simp) hsrc]
  simp

/-- A copy that is longer than the room left in the destination writes outside
it, whatever the source holds. -/
theorem copy_loop_overrun {dst src : List UInt8} {doff soff n : Nat} (hroom : doff ≤ dst.length)
    (hover : dst.length < doff + n) (hsrc : soff + n ≤ src.length) :
    copy_loop dst doff src soff n = .error (.write dst.length) := by
  induction n generalizing dst doff soff with
  | zero => omega
  | succ n ih =>
    have hs : soff < src.length := by omega
    rw [copy_loop, rd_ok hs, bind_ok, wr]
    by_cases hd : doff < dst.length
    · rw [if_pos hd, bind_ok, ih (by simp; omega) (by simp; omega) (by omega)]
      simp
    · have hend : doff = dst.length := by omega
      rw [if_neg hd, bind_error, hend]

end spw_bridge
