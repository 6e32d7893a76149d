import Mathlib.Data.Multiset.AddSub

/-! Resources that a program acquires, uses and releases, some of which need
others while they are held. -/

namespace resources

/-- What a program does with a resource. -/
inductive Act (R : Type)
  | acquire (r : R)
  | use (r : R)
  | release (r : R)
  deriving DecidableEq

variable {R : Type} [DecidableEq R] (needs : R → List R)

/-- What is held after an act. There is nothing after an act that is wrong: to
acquire something without what it needs, to use or release something that is not
held, to release something that another one still needs. -/
def act (held : Multiset R) : Act R → Option (Multiset R)
  | .acquire r => if ∀ need ∈ needs r, need ∈ held then some (r ::ₘ held) else none
  | .use r => if r ∈ held then some held else none
  | .release r =>
    if r ∈ held ∧ ∀ other ∈ held.erase r, ∀ need ∈ needs other, need ∈ held.erase r then some (held.erase r)
    else none

/-- What is held after some acts. -/
def after (held : Multiset R) : List (Act R) → Option (Multiset R)
  | [] => some held
  | a :: acts => (act needs held a).bind fun held => after held acts

/-- Nothing is held without what it needs. -/
def Closed (held : Multiset R) : Prop := ∀ r ∈ held, ∀ need ∈ needs r, need ∈ held

/-- Some resources are held besides. -/
def hold (rs : List R) (held : Multiset R) : Multiset R := rs.foldr Multiset.cons held

variable {needs}

omit [DecidableEq R] in
theorem mem_hold {rs : List R} {held : Multiset R} {r : R} : r ∈ hold rs held ↔ r ∈ rs ∨ r ∈ held := by
  induction rs with
  | nil => simp [hold]
  | cons own rs ih =>
    change r ∈ own ::ₘ hold rs held ↔ _
    rw [Multiset.mem_cons, ih, List.mem_cons, or_assoc]

omit [DecidableEq R] in
/-- Besides what is closed, resources that need nothing else may be held. -/
theorem closed_hold {rs : List R} {held : Multiset R} (hclosed : Closed needs held)
    (hneeds : ∀ r ∈ rs, ∀ need ∈ needs r, need ∈ held) : Closed needs (hold rs held) := by
  intro r hr need hneed
  rcases mem_hold.mp hr with hr | hr
  · exact mem_hold.mpr (.inr (hneeds r hr need hneed))
  · exact mem_hold.mpr (.inr (hclosed r hr need hneed))

theorem after_append (held : Multiset R) (acts acts' : List (Act R)) :
    after needs held (acts ++ acts') = (after needs held acts).bind fun held => after needs held acts' := by
  induction acts generalizing held with
  | nil => rfl
  | cons a acts ih =>
    rw [List.cons_append, after, after]
    cases act needs held a with
    | none => rfl
    | some held' => exact ih held'

theorem after_snoc {held held' : Multiset R} {acts : List (Act R)} (hacts : after needs held acts = some held')
    (a : Act R) : after needs held (acts ++ [a]) = act needs held' a := by
  rw [after_append, hacts]
  cases hact : act needs held' a <;> simp [after, hact]

/-- A prefix of acts that are all right is. -/
theorem after_prefix {held held' : Multiset R} {acts acts' : List (Act R)} (hpre : acts <+: acts')
    (hacts : after needs held acts' = some held') : ∃ mid, after needs held acts = some mid := by
  obtain ⟨rest, rfl⟩ := hpre
  rw [after_append] at hacts
  obtain ⟨mid, hmid, _⟩ := Option.bind_eq_some_iff.mp hacts
  exact ⟨mid, hmid⟩

section rules

variable {held : Multiset R} {r : R}

theorem act_acquire (hneeds : ∀ need ∈ needs r, need ∈ held) : act needs held (.acquire r) = some (r ::ₘ held) :=
  if_pos hneeds

theorem act_use (hheld : r ∈ held) : act needs held (.use r) = some held := if_pos hheld

/-- What nothing else needs can be released. -/
theorem act_release (hneeds : ∀ other ∈ held, ∀ need ∈ needs other, need ∈ held) :
    act needs (r ::ₘ held) (.release r) = some held := by
  rw [act, Multiset.erase_cons_head]
  exact if_pos ⟨Multiset.mem_cons_self r held, hneeds⟩

theorem act_closed {a : Act R} {held' : Multiset R} (hclosed : Closed needs held)
    (hact : act needs held a = some held') : Closed needs held' := by
  cases a with
  | acquire r =>
    obtain ⟨hneeds, ⟨⟩⟩ := Option.ite_none_right_eq_some.mp hact
    intro other hother need hneed
    rcases Multiset.mem_cons.mp hother with rfl | hother
    · exact Multiset.mem_cons_of_mem (hneeds need hneed)
    · exact Multiset.mem_cons_of_mem (hclosed other hother need hneed)
  | use r =>
    obtain ⟨_, ⟨⟩⟩ := Option.ite_none_right_eq_some.mp hact
    exact hclosed
  | release r =>
    obtain ⟨⟨_, hneeds⟩, ⟨⟩⟩ := Option.ite_none_right_eq_some.mp hact
    exact hneeds

end rules

/-- Through acts that are all right nothing is ever held without what it needs. -/
theorem after_closed {held held' : Multiset R} {acts : List (Act R)} (hclosed : Closed needs held)
    (hacts : after needs held acts = some held') : Closed needs held' := by
  induction acts generalizing held with
  | nil =>
    cases hacts
    exact hclosed
  | cons a acts ih =>
    obtain ⟨mid, hact, hrest⟩ := Option.bind_eq_some_iff.mp hacts
    exact ih (act_closed hclosed hact) hrest

/-- Through acts that are all right, what is held and what has been released is
what was held and what has been acquired. -/
theorem after_count {held held' : Multiset R} {acts : List (Act R)} (hacts : after needs held acts = some held')
    (r : R) : held'.count r + acts.count (.release r) = held.count r + acts.count (.acquire r) := by
  induction acts generalizing held with
  | nil =>
    cases hacts
    rfl
  | cons a acts ih =>
    obtain ⟨mid, hact, hrest⟩ := Option.bind_eq_some_iff.mp hacts
    have hlater := ih hrest
    rw [List.count_cons, List.count_cons]
    cases a with
    | acquire own =>
      obtain ⟨_, ⟨⟩⟩ := Option.ite_none_right_eq_some.mp hact
      rw [Multiset.count_cons] at hlater
      by_cases heq : r = own
      · subst heq
        simp at hlater ⊢
        omega
      · have hne : own ≠ r := fun h => heq h.symm
        simp [heq, hne] at hlater ⊢
        omega
    | use own =>
      obtain ⟨_, ⟨⟩⟩ := Option.ite_none_right_eq_some.mp hact
      simpa using hlater
    | release own =>
      obtain ⟨⟨hmem, _⟩, ⟨⟩⟩ := Option.ite_none_right_eq_some.mp hact
      by_cases heq : r = own
      · subst heq
        have hpos := Multiset.count_pos.mpr hmem
        rw [Multiset.count_erase_self] at hlater
        simp
        omega
      · have hne : own ≠ r := fun h => heq h.symm
        rw [Multiset.count_erase_of_ne heq] at hlater
        simp [hne]
        omega

/-- Where nothing is held in the end, everything has been released as often as it
has been acquired. -/
theorem count_release_of_none {acts : List (Act R)} (hacts : after needs 0 acts = some 0) (r : R) :
    acts.count (.release r) = acts.count (.acquire r) := by
  have h := after_count hacts r
  simpa using h

end resources
