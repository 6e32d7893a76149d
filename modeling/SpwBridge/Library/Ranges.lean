import Mathlib.Order.Basic

namespace ranges

variable {A : Type*}

/-- The sequence `dst` with its `n` places from `d` on taken from the places of
`frm` from `s` on. -/
def splice (dst : Nat → A) (d : Nat) (frm : Nat → A) (s n : Nat) : Nat → A :=
  fun k => if d ≤ k ∧ k < d + n then frm (s + (k - d)) else dst k

theorem splice_inside (dst frm : Nat → A) (d s : Nat) {n k : Nat} (hk : k < n) :
    splice dst d frm s n (d + k) = frm (s + k) := by
  rw [splice, if_pos (by omega)]
  congr 1
  omega

theorem splice_outside (dst frm : Nat → A) {d n k : Nat} (s : Nat) (hk : k < d ∨ d + n ≤ k) :
    splice dst d frm s n k = dst k := by
  rw [splice, if_neg (by omega)]

@[simp] theorem splice_zero (dst frm : Nat → A) (d s : Nat) : splice dst d frm s 0 = dst := by
  funext k
  exact splice_outside dst frm s (by omega)

/-- A splice is determined by its places. -/
theorem eq_splice_iff {dst frm after : Nat → A} {d s n : Nat} :
    after = splice dst d frm s n ↔
      (∀ k < n, after (d + k) = frm (s + k)) ∧ ∀ k, k < d ∨ d + n ≤ k → after k = dst k := by
  constructor
  · intro hafter
    subst hafter
    exact ⟨fun k hk => splice_inside dst frm d s hk, fun k hk => splice_outside dst frm s hk⟩
  · rintro ⟨hinside, houtside⟩
    funext k
    by_cases hk : d ≤ k ∧ k < d + n
    · have hplace := hinside (k - d) (by omega)
      rw [show d + (k - d) = k by omega] at hplace
      rw [splice, if_pos hk, hplace]
    · rw [splice, if_neg hk]
      exact houtside k (by omega)

/-- Only the places that are taken matter. -/
theorem splice_congr {dst frm frm' : Nat → A} {s s' n : Nat} (d : Nat)
    (hsame : ∀ k < n, frm (s + k) = frm' (s' + k)) : splice dst d frm s n = splice dst d frm' s' n := by
  apply eq_splice_iff.mpr
  constructor
  · intro k hk
    rw [splice_inside dst frm d s hk, hsame k hk]
  · intro k hk
    exact splice_outside dst frm s hk

/-- Two adjoining stretches of one source are one stretch. -/
theorem splice_splice (dst frm : Nat → A) (d s n m : Nat) :
    splice (splice dst d frm s n) (d + n) frm (s + n) m = splice dst d frm s (n + m) := by
  apply eq_splice_iff.mpr
  constructor
  · intro k hk
    by_cases hfirst : k < n
    · rw [splice_outside _ _ _ (by omega), splice_inside dst frm d s hfirst]
    · have hplace := @splice_inside _ (splice dst d frm s n) frm (d + n) (s + n) m (k - n) (by omega)
      rw [show d + n + (k - n) = d + k by omega, show s + n + (k - n) = s + k by omega] at hplace
      exact hplace
  · intro k hk
    rw [splice_outside _ _ _ (by omega), splice_outside _ _ _ (by omega)]

end ranges
