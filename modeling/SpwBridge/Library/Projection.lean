import SpwBridge.Library.Effect

namespace effect

variable {ε σ τ α β : Type}

/-- A result with a part of its state. -/
def project (f : τ → σ) : EStateM.Result ε τ α → EStateM.Result ε σ α
  | .ok a t => .ok a (f t)
  | .error e t => .error e (f t)

/-- On states with more in them, of which `f` keeps a part, a program does what
another one does on that part. -/
def Projects (f : τ → σ) (x : EStateM ε τ α) (y : EStateM ε σ α) : Prop := ∀ t, project f (x t) = y (f t)

section rules

variable {f : τ → σ}

theorem final_project (r : EStateM.Result ε τ α) : final (project f r) = f (final r) := by
  cases r <;> rfl

theorem projects_pure (a : α) : Projects f (pure a : EStateM ε τ α) (pure a) := fun _ => rfl

theorem projects_throw (e : ε) : Projects f (throw e : EStateM ε τ α) (throw e) := fun _ => rfl

theorem projects_modify {g : τ → τ} {h : σ → σ} (hg : ∀ t, f (g t) = h (f t)) :
    Projects f (modify g : EStateM ε τ PUnit) (modify h) := fun t => congrArg (EStateM.Result.ok PUnit.unit) (hg t)

/-- Sequencing, part by part. -/
theorem projects_bind {x : EStateM ε τ α} {y : EStateM ε σ α} {g : α → EStateM ε τ β} {h : α → EStateM ε σ β}
    (hx : Projects f x y) (hrest : ∀ a, Projects f (g a) (h a)) : Projects f (x >>= g) (y >>= h) := by
  intro t
  have hfirst := hx t
  simp only [Bind.bind, EStateM.bind]
  cases hrun : x t with
  | ok a t' =>
    rw [hrun] at hfirst
    rw [← hfirst]
    exact hrest a t'
  | error e t' =>
    rw [hrun] at hfirst
    rw [← hfirst]
    rfl

/-- What is read of the state may differ, what is done with it may not. -/
theorem projects_get {g : τ → EStateM ε τ α} {h : σ → EStateM ε σ α} (hrest : ∀ t, Projects f (g t) (h (f t))) :
    Projects f (get >>= g) (get >>= h) := fun t => hrest t t

theorem projects_map {x : EStateM ε τ α} {y : EStateM ε σ α} (hx : Projects f x y) (g : α → β) :
    Projects f (g <$> x) (g <$> y) := by
  intro t
  have hfirst := hx t
  simp only [Functor.map, EStateM.map]
  cases hrun : x t with
  | ok a t' =>
    rw [hrun] at hfirst
    rw [← hfirst]
    rfl
  | error e t' =>
    rw [hrun] at hfirst
    rw [← hfirst]
    rfl

theorem projects_ite {c : Prop} [Decidable c] {x x' : EStateM ε τ α} {y y' : EStateM ε σ α}
    (hx : Projects f x y) (hx' : Projects f x' y') : Projects f (if c then x else x') (if c then y else y') := by
  split
  · exact hx
  · exact hx'

theorem projects_forM {xs : List β} {body : β → EStateM ε τ PUnit} {body' : β → EStateM ε σ PUnit}
    (hbody : ∀ b, Projects f (body b) (body' b)) : Projects f (forM xs body) (forM xs body') := by
  induction xs with
  | nil => exact projects_pure _
  | cons b xs ih =>
    rw [List.forM_cons, List.forM_cons]
    exact projects_bind (hbody b) fun _ => ih

end rules

end effect
