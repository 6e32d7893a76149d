import Mathlib.Data.List.TakeWhile
import SpwBridge.Library.Strings

/-! Decimal numbers and numbers-and-dots addresses as strings, and their way
back through the conversions of the C library. -/

namespace strings

/-- What `%u` prints. -/
def decimal (n : Nat) : List Char := Nat.toDigits 10 n

/-- What `atoi` reads, as far as it fits an `int`. -/
def atoi (str : List Char) : Int := (strtol str 10).1

/-! ### Digits -/

theorem digit_of_isDigit {c : Char} (hc : c.isDigit = true) :
    digit c < 10 ∧ digit c = c.toNat - '0'.toNat := by
  simp only [Char.isDigit, Bool.and_eq_true, decide_eq_true_eq] at hc
  have hbounds : '0' ≤ c ∧ c ≤ '9' := hc
  have hval : 48 ≤ c.toNat ∧ c.toNat ≤ 57 := hc
  have hzero : '0'.toNat = 48 := rfl
  rw [digit, if_pos hbounds, hzero]
  omega

theorem isspace_of_isDigit {c : Char} (hc : c.isDigit = true) : isspace c = false := by
  simp only [Char.isDigit, Bool.and_eq_true, decide_eq_true_eq] at hc
  have hval : 48 ≤ c.toNat ∧ c.toNat ≤ 57 := hc
  have hspace : c ≠ ' ' := by
    rintro rfl
    have : ' '.toNat = 32 := rfl
    omega
  simp only [isspace, Bool.or_eq_false_iff, beq_eq_false_iff_ne, Bool.and_eq_false_iff, decide_eq_false_iff_not]
  exact ⟨hspace, .inr (by omega)⟩

theorem isDigit_of_mem_decimal {n : Nat} {c : Char} (hc : c ∈ decimal n) : c.isDigit = true :=
  Nat.isDigit_of_mem_toDigits (by decide) (by decide) hc

theorem decimal_ne_nil (n : Nat) : decimal n ≠ [] := Nat.toDigits_ne_nil

/-- Only zero is printed with a zero in front. -/
theorem decimal_head {n : Nat} (hn : 0 < n) (rest : List Char) : decimal n ≠ '0' :: rest := by
  induction n using Nat.strong_induction_on generalizing rest with
  | _ n ih =>
    intro heq
    rw [decimal, Nat.toDigits_eq_if (by decide)] at heq
    split at heq
    case isTrue hsmall =>
      have hvalue := Nat.toNat_digitChar_of_lt_ten hsmall
      rw [(List.cons.inj heq).1] at hvalue
      have hzero : '0'.toNat = 48 := rfl
      omega
    case isFalse hlarge =>
      have hpos : 0 < n / 10 := by omega
      cases hfront : Nat.toDigits 10 (n / 10) with
      | nil => exact Nat.toDigits_ne_nil hfront
      | cons c front =>
        rw [hfront, List.cons_append] at heq
        obtain ⟨rfl, _⟩ := List.cons.inj heq
        exact ih (n / 10) (by omega) hpos front hfront

/-- The digits of a number have its value. -/
theorem foldl_decimal (n : Nat) : (decimal n).foldl (fun acc c => acc * 10 + digit c) 0 = n := by
  have hvalue : Nat.ofDigitChars 10 (decimal n) 0 = n := Nat.ofDigitChars_ten_toDigits
  rw [Nat.ofDigitChars_eq_foldl] at hvalue
  calc
    _ = (decimal n).foldl (fun acc c => 10 * acc + (c.toNat - '0'.toNat)) 0 := by
      apply List.foldl_ext
      intro acc c hc
      rw [(digit_of_isDigit (isDigit_of_mem_decimal hc)).2, Nat.mul_comm]
    _ = n := hvalue

/-! ### Reading them back -/

theorem dropWhile_isspace_decimal (n : Nat) (rest : List Char) :
    (decimal n ++ rest).dropWhile isspace = decimal n ++ rest := by
  cases hdigits : decimal n with
  | nil => exact absurd hdigits (decimal_ne_nil n)
  | cons c digits =>
    have hc : isspace c = false := isspace_of_isDigit (isDigit_of_mem_decimal (hdigits ▸ List.mem_cons_self))
    rw [List.cons_append, List.dropWhile_cons, hc]
    rfl

theorem sign_decimal (n : Nat) (rest : List Char) : sign (decimal n ++ rest) = (false, decimal n ++ rest) := by
  cases hdigits : decimal n with
  | nil => exact absurd hdigits (decimal_ne_nil n)
  | cons c digits =>
    have hc : c.isDigit = true := isDigit_of_mem_decimal (hdigits ▸ List.mem_cons_self)
    rw [List.cons_append]
    unfold sign
    split
    · rename_i heq
      rw [(List.cons.inj heq).1] at hc
      cases hc
    · rename_i heq
      rw [(List.cons.inj heq).1] at hc
      cases hc
    · rfl

theorem radix_ten (str : List Char) : radix 10 str = (10, str) := by
  unfold radix
  split <;> simp

/-- A decimal number is read up to the first character that is not a digit. -/
theorem scan_of_radix {n base : Nat} {rest : List Char} (hrest : ∀ c ∈ rest.head?, 10 ≤ digit c)
    (hradix : radix base (decimal n ++ rest) = (10, decimal n ++ rest)) :
    scan (decimal n ++ rest) base = some (false, n, rest) := by
  have htake : (decimal n ++ rest).takeWhile (fun c => digit c < 10) = decimal n := by
    rw [List.takeWhile_append_of_pos]
    · have hnone : rest.takeWhile (fun c => digit c < 10) = [] := by
        cases rest with
        | nil => rfl
        | cons c rest =>
          have hc : ¬ digit c < 10 := Nat.not_lt.mpr (hrest c rfl)
          rw [List.takeWhile_cons, if_neg (by simpa using hc)]
      rw [hnone, List.append_nil]
    · intro c hc
      simpa using (digit_of_isDigit (isDigit_of_mem_decimal hc)).1
  simp only [scan, dropWhile_isspace_decimal, sign_decimal, hradix, htake]
  rw [if_neg (decimal_ne_nil n), foldl_decimal, List.drop_left]

theorem strtol_decimal {n : Nat} (hn : n < 2 ^ 63) {rest : List Char} (hrest : ∀ c ∈ rest.head?, 10 ≤ digit c) :
    strtol (decimal n ++ rest) 10 = ((n : Int), rest) := by
  have hrange : max (-2 ^ 63) (min (2 ^ 63 - 1) (n : Int)) = n := by omega
  simp only [strtol, scan_of_radix hrest (radix_ten _), Bool.false_eq_true, if_false, hrange]

theorem atoi_decimal {n : Nat} (hn : n < 2 ^ 63) : atoi (decimal n) = n := by
  rw [atoi, ← List.append_nil (decimal n), strtol_decimal hn (by simp)]

/-- In base 0 too: no number begins with the prefix of another base, and zero is
zero in all. -/
theorem scan_zero_decimal (n : Nat) : scan (decimal n) 0 = some (false, n, []) := by
  rcases Nat.eq_zero_or_pos n with rfl | hn
  · rfl
  · have hradix : radix 0 (decimal n ++ []) = (10, decimal n ++ []) := by
      rw [List.append_nil]
      unfold radix
      split
      · rename_i heq
        exact absurd heq (decimal_head hn _)
      · rename_i heq
        exact absurd heq (decimal_head hn _)
      · rfl
    rw [← List.append_nil (decimal n), scan_of_radix (by simp) hradix]

/-! ### Addresses -/

def INADDR_NONE : UInt32 := 0xffffffff

/-- What `inet_ntop` prints of an IPv4 address. -/
def inet_ntop (addr : UInt32) : List Char :=
  ['.'].intercalate [decimal (addr.toNat / 2 ^ 24), decimal (addr.toNat / 2 ^ 16 % 2 ^ 8),
    decimal (addr.toNat / 2 ^ 8 % 2 ^ 8), decimal (addr.toNat % 2 ^ 8)]

/-- A number between the dots: it begins with a digit and nothing follows it. -/
def inet_part (part : List Char) : Option Nat :=
  if part.head?.any Char.isDigit then
    match scan part 0 with
    | some (_, n, []) => some n
    | _ => none
  else none

/-- The address that a string begins with, of one to four numbers. All but the
last one are bytes; the last one fills the rest. -/
def inet_addr (cp : List Char) : UInt32 :=
  match ((cp.takeWhile fun c => !isspace c).splitOn '.').mapM inet_part with
  | some [a] => if a < 2 ^ 32 then UInt32.ofNat a else INADDR_NONE
  | some [a, b] => if a < 2 ^ 8 ∧ b < 2 ^ 24 then UInt32.ofNat (a * 2 ^ 24 + b) else INADDR_NONE
  | some [a, b, c] =>
    if a < 2 ^ 8 ∧ b < 2 ^ 8 ∧ c < 2 ^ 16 then UInt32.ofNat (a * 2 ^ 24 + b * 2 ^ 16 + c) else INADDR_NONE
  | some [a, b, c, d] =>
    if a < 2 ^ 8 ∧ b < 2 ^ 8 ∧ c < 2 ^ 8 ∧ d < 2 ^ 8 then UInt32.ofNat (a * 2 ^ 24 + b * 2 ^ 16 + c * 2 ^ 8 + d)
    else INADDR_NONE
  | _ => INADDR_NONE

theorem inet_part_decimal (n : Nat) : inet_part (decimal n) = some n := by
  have hhead : (decimal n).head?.any Char.isDigit = true := by
    cases hdigits : decimal n with
    | nil => exact absurd hdigits (decimal_ne_nil n)
    | cons c digits => exact isDigit_of_mem_decimal (n := n) (hdigits ▸ List.mem_cons_self)
  rw [inet_part, if_pos hhead, scan_zero_decimal]

theorem mem_inet_ntop {addr : UInt32} {c : Char} (hc : c ∈ inet_ntop addr) : c.isDigit = true ∨ c = '.' := by
  simp only [inet_ntop, List.intercalate, List.intersperse, List.flatten_cons, List.flatten_nil, List.mem_append,
    List.mem_singleton, List.append_nil] at hc
  rcases hc with h | h | h | h | h | h | h
  all_goals first | exact .inr h | exact .inl (isDigit_of_mem_decimal h)

theorem inet_ntop_ne_nil (addr : UInt32) : inet_ntop addr ≠ [] := by
  simp [inet_ntop, List.intercalate, List.intersperse]

/-- A byte has at most three digits. -/
theorem length_inet_ntop (addr : UInt32) : (inet_ntop addr).length ≤ 15 := by
  have hbyte : ∀ n < 10 ^ 3, (decimal n).length ≤ 3 := fun n hn =>
    (Nat.length_toDigits_le_iff (by decide) (by decide)).mpr hn
  have hlt := addr.toNat_lt
  have ha := hbyte (addr.toNat / 2 ^ 24) (by omega)
  have hb := hbyte (addr.toNat / 2 ^ 16 % 2 ^ 8) (by omega)
  have hc := hbyte (addr.toNat / 2 ^ 8 % 2 ^ 8) (by omega)
  have hd := hbyte (addr.toNat % 2 ^ 8) (by omega)
  simp only [inet_ntop, List.intercalate, List.intersperse, List.flatten_cons, List.flatten_nil, List.length_append,
    List.length_singleton, List.length_nil]
  omega

/-- An address that is printed is read back. -/
theorem inet_addr_ntop (addr : UInt32) : inet_addr (inet_ntop addr) = addr := by
  have hwhole : (inet_ntop addr).takeWhile (fun c => !isspace c) = inet_ntop addr := by
    apply List.takeWhile_eq_self_iff.mpr
    intro c hc
    rcases mem_inet_ntop hc with hdigit | rfl
    · simp [isspace_of_isDigit hdigit]
    · rfl
  have hdot : ∀ n, '.' ∉ decimal n := by
    intro n hmem
    have h := isDigit_of_mem_decimal hmem
    cases h
  have hparts : (inet_ntop addr).splitOn '.' = [decimal (addr.toNat / 2 ^ 24), decimal (addr.toNat / 2 ^ 16 % 2 ^ 8),
      decimal (addr.toNat / 2 ^ 8 % 2 ^ 8), decimal (addr.toNat % 2 ^ 8)] := by
    apply List.splitOn_intercalate
    · simp [hdot]
    · simp
  have hlt := addr.toNat_lt
  have hbytes : addr.toNat / 2 ^ 24 < 2 ^ 8 ∧ addr.toNat / 2 ^ 16 % 2 ^ 8 < 2 ^ 8 ∧
      addr.toNat / 2 ^ 8 % 2 ^ 8 < 2 ^ 8 ∧ addr.toNat % 2 ^ 8 < 2 ^ 8 := by omega
  have hsum : addr.toNat / 2 ^ 24 * 2 ^ 24 + addr.toNat / 2 ^ 16 % 2 ^ 8 * 2 ^ 16 +
      addr.toNat / 2 ^ 8 % 2 ^ 8 * 2 ^ 8 + addr.toNat % 2 ^ 8 = addr.toNat := by omega
  rw [inet_addr, hwhole, hparts]
  simp only [List.mapM_cons, List.mapM_nil, inet_part_decimal, Option.bind_eq_bind, Option.bind_some,
    Option.pure_def, hsum, UInt32.ofNat_toNat]
  rw [if_pos hbytes]

end strings
