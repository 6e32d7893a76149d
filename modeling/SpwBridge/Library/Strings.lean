import Mathlib.Algebra.Ring.Int.Defs
import Mathlib.Algebra.Ring.Nat
import Mathlib.Data.List.Basic

/-! The conversions of the C library from strings of characters. -/

namespace strings

def isspace (c : Char) : Bool := c == ' ' || (9 ≤ c.toNat && c.toNat ≤ 13)

/-- The value of a character as a digit; 36 is the value of no digit. -/
def digit (c : Char) : Nat :=
  if '0' ≤ c ∧ c ≤ '9' then c.toNat - '0'.toNat
  else if 'a' ≤ c ∧ c ≤ 'z' then c.toNat - 'a'.toNat + 10
  else if 'A' ≤ c ∧ c ≤ 'Z' then c.toNat - 'A'.toNat + 10
  else 36

def sign : List Char → Bool × List Char
  | '-' :: str => (true, str)
  | '+' :: str => (false, str)
  | str => (false, str)

/-- The base of a number and its digits. Base 0 is decided by the leading
characters; the prefix of base 16 counts only before a digit. -/
def radix (base : Nat) (str : List Char) : Nat × List Char :=
  match str with
  | '0' :: x :: c :: rest =>
    if (x = 'x' ∨ x = 'X') ∧ digit c < 16 ∧ (base = 0 ∨ base = 16) then (16, c :: rest)
    else (if base = 0 then 8 else base, str)
  | '0' :: _ => (if base = 0 then 8 else base, str)
  | _ => (if base = 0 then 10 else base, str)

/-- The sign, the value and the end of the number that a string begins with. -/
def scan (str : List Char) (base : Nat) : Option (Bool × Nat × List Char) :=
  let signed := sign (str.dropWhile isspace)
  let based := radix base signed.2
  let digits := based.2.takeWhile fun c => digit c < based.1
  if digits = [] then none
  else some (signed.1, digits.foldl (fun n c => n * based.1 + digit c) 0, based.2.drop digits.length)

/-- The number as a 64-bit `long`, out of range its nearest value, and what
follows it. Without a digit nothing is consumed. -/
def strtol (str : List Char) (base : Nat) : Int × List Char :=
  match scan str base with
  | none => (0, str)
  | some (negative, n, rest) => (max (-2 ^ 63) (min (2 ^ 63 - 1) (if negative then -n else n)), rest)

def strtoul (str : List Char) (base : Nat) : Nat :=
  match scan str base with
  | none => 0
  | some (negative, n, _) =>
    if 2 ^ 64 ≤ n then 2 ^ 64 - 1 else if negative then (2 ^ 64 - n) % 2 ^ 64 else n

/-- The tokens that repeated calls of `strtok` find. -/
def tokens (delim : Char) (str : List Char) : List (List Char) := (str.splitOn delim).filter (· ≠ [])

end strings
