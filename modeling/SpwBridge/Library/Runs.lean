import Mathlib.Data.List.Basic

namespace runs

variable {S A : Type}

/-- The state after a sequence of actions. -/
def run (step : S → A → S) (s : S) (actions : List A) : S := actions.foldl step s

/-- Each action of a run meets a condition in the state it is taken in. -/
def Along (step : S → A → S) (ok : S → A → Prop) : S → List A → Prop
  | _, [] => True
  | s, a :: actions => ok s a ∧ Along step ok (step s a) actions

instance Along.decidable {step : S → A → S} {ok : S → A → Prop} [∀ s a, Decidable (ok s a)] :
    (s : S) → (actions : List A) → Decidable (Along step ok s actions)
  | _, [] => isTrue trivial
  | s, a :: actions => @instDecidableAnd _ _ _ (Along.decidable (step s a) actions)

section along

variable {step : S → A → S} {ok ok' : S → A → Prop} {s : S}

@[simp] theorem run_nil : run step s [] = s := rfl

@[simp] theorem run_cons (a : A) (actions : List A) : run step s (a :: actions) = run step (step s a) actions := rfl

theorem run_append (actions later : List A) : run step s (actions ++ later) = run step (run step s actions) later :=
  List.foldl_append

@[simp] theorem along_nil : Along step ok s [] := trivial

@[simp] theorem along_cons (a : A) (actions : List A) :
    Along step ok s (a :: actions) ↔ ok s a ∧ Along step ok (step s a) actions := Iff.rfl

theorem along_trivial (actions : List A) : Along step (fun _ _ => True) s actions := by
  induction actions generalizing s with
  | nil => exact trivial
  | cons a actions ih => exact ⟨trivial, ih⟩

/-- An invariant that every step meeting the condition keeps holds at the end,
and the steps have what it gives them. -/
theorem Along.maintains {inv : S → Prop} (hstep : ∀ s a, inv s → ok s a → ok' s a ∧ inv (step s a))
    {actions : List A} (hok : Along step ok s actions) (hs : inv s) :
    Along step ok' s actions ∧ inv (run step s actions) := by
  induction actions generalizing s with
  | nil => exact ⟨trivial, hs⟩
  | cons a actions ih =>
    obtain ⟨hfirst, hrest⟩ := hok
    obtain ⟨hmeets, hnext⟩ := hstep s a hs hfirst
    obtain ⟨hlater, hend⟩ := ih hrest hnext
    exact ⟨⟨hmeets, hlater⟩, hend⟩

/-- The invariant alone. -/
theorem Along.invariant {inv : S → Prop} (hstep : ∀ s a, inv s → ok s a → inv (step s a)) {actions : List A}
    (hok : Along step ok s actions) (hs : inv s) : inv (run step s actions) := by
  have hstep' : ∀ s a, inv s → ok s a → True ∧ inv (step s a) := fun s a hs ha => ⟨trivial, hstep s a hs ha⟩
  exact (hok.maintains hstep' hs).2

end along

end runs
