import Mathlib.Data.List.Basic

namespace overwrites

variable {A B : Type}

/-- What the last element of a sequence that sets something sets it to. -/
def latest (f : A → Option B) (xs : List A) : Option B := (xs.filterMap f).getLast?

@[simp] theorem latest_nil (f : A → Option B) : latest f [] = none := rfl

theorem latest_append (f : A → Option B) (xs ys : List A) :
    latest f (xs ++ ys) = (latest f ys).or (latest f xs) := by
  rw [latest, List.filterMap_append, List.getLast?_append]
  rfl

theorem latest_singleton (f : A → Option B) (x : A) : latest f [x] = f x := by
  cases hx : f x with
  | none => simp [latest, hx]
  | some b => simp [latest, hx]

theorem latest_cons (f : A → Option B) (x : A) (xs : List A) : latest f (x :: xs) = (latest f xs).or (f x) := by
  rw [← List.singleton_append, latest_append, latest_singleton]

/-- A default is overwritten by each element that sets something. -/
theorem latest_cons_getD (f : A → Option B) (x : A) (xs : List A) (b : B) :
    (latest f (x :: xs)).getD b = (latest f xs).getD ((f x).getD b) := by
  rw [latest_cons]
  cases latest f xs with
  | none => rfl
  | some b' => rfl

theorem latest_eq_none_iff {f : A → Option B} {xs : List A} : latest f xs = none ↔ ∀ x ∈ xs, f x = none := by
  rw [latest, List.getLast?_eq_none_iff, List.filterMap_eq_nil_iff]

/-- The element that was the last one to set something. -/
theorem exists_of_latest {f : A → Option B} {xs : List A} {b : B} (hlast : latest f xs = some b) :
    ∃ before x after, xs = before ++ x :: after ∧ f x = some b ∧ latest f after = none := by
  induction xs with
  | nil => cases hlast
  | cons x xs ih =>
    cases hrest : latest f xs with
    | none =>
      rw [latest_cons, hrest] at hlast
      exact ⟨[], x, xs, rfl, hlast, hrest⟩
    | some b' =>
      rw [latest_cons, hrest] at hlast
      obtain ⟨before, y, after, hxs, hy, hafter⟩ := ih (hrest.trans hlast)
      exact ⟨x :: before, y, after, by rw [hxs, List.cons_append], hy, hafter⟩

theorem latest_map {C : Type} (f : A → Option B) (g : B → C) (xs : List A) :
    latest (fun x => (f x).map g) xs = (latest f xs).map g := by
  induction xs with
  | nil => rfl
  | cons x xs ih => rw [latest_cons, latest_cons, ih, Option.map_or]

/-- Of two sources of one setting the one that nothing uses does not count. -/
theorem latest_or_of_none {f : A → Option B} {xs : List A} (g : A → Option B) (hnone : latest f xs = none) :
    latest (fun x => (f x).or (g x)) xs = latest g xs := by
  have hunset := latest_eq_none_iff.mp hnone
  rw [latest, latest]
  congr 1
  apply List.filterMap_congr
  intro x hx
  rw [hunset x hx, Option.none_or]

/-- Two sources of one setting: behind the last element of the first source only
the second one counts. -/
theorem latest_or_split {f g : A → Option B} {before after : List A} {x : A} {b : B} (hx : f x = some b)
    (hafter : latest f after = none) :
    latest (fun y => (f y).or (g y)) (before ++ x :: after) = (latest g after).or (some b) := by
  rw [latest_append, latest_cons, latest_or_of_none g hafter, hx, Option.some_or]
  cases latest g after with
  | none => rfl
  | some b' => rfl

/-- Elements that set nothing may be left out. -/
theorem latest_filter {f : A → Option B} {p : A → Bool} (hp : ∀ x, p x = false → f x = none) (xs : List A) :
    latest f (xs.filter p) = latest f xs := by
  rw [latest, latest, List.filterMap_filter]
  congr 1
  apply List.filterMap_congr
  intro x hx
  cases hpx : p x with
  | true => simp
  | false => simp [hp x hpx]

end overwrites
