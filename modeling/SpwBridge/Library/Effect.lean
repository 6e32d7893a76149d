import Mathlib.Order.Defs.Unbundled

namespace effect

variable {ε σ α β : Type}

/-- The state a run stops in, whether it returns or throws. -/
def final : EStateM.Result ε σ α → σ
  | .ok _ s => s
  | .error _ s => s

/-- Weakest precondition of a program for a postcondition on returned values
and one on thrown errors. -/
def wp (x : EStateM ε σ α) (post : α → σ → Prop) (fails : ε → σ → Prop) (s : σ) : Prop :=
  match x s with
  | .ok a s' => post a s'
  | .error e s' => fails e s'

section rules

variable {post : α → σ → Prop} {fails : ε → σ → Prop} {s : σ}

@[simp] theorem wp_pure (a : α) : wp (pure a) post fails s ↔ post a s := Iff.rfl

@[simp] theorem wp_throw (e : ε) : wp (throw e : EStateM ε σ α) post fails s ↔ fails e s := Iff.rfl

@[simp] theorem wp_get {post : σ → σ → Prop} : wp (get : EStateM ε σ σ) post fails s ↔ post s s := Iff.rfl

@[simp] theorem wp_modify {post : PUnit → σ → Prop} (f : σ → σ) :
    wp (modify f : EStateM ε σ PUnit) post fails s ↔ post ⟨⟩ (f s) := Iff.rfl

@[simp] theorem wp_bind {post : β → σ → Prop} (x : EStateM ε σ α) (f : α → EStateM ε σ β) :
    wp (x >>= f) post fails s ↔ wp x (fun a => wp (f a) post fails) fails s := by
  simp only [wp, Bind.bind, EStateM.bind]
  cases x s <;> rfl

@[simp] theorem wp_map {post : β → σ → Prop} (f : α → β) (x : EStateM ε σ α) :
    wp (f <$> x) post fails s ↔ wp x (fun a => post (f a)) fails s := by
  simp only [wp, Functor.map, EStateM.map]
  cases x s <;> rfl

theorem wp_ite (c : Prop) [Decidable c] (x y : EStateM ε σ α) :
    wp (if c then x else y) post fails s ↔ if c then wp x post fails s else wp y post fails s := by
  split <;> rfl

/-- Consequence. -/
theorem wp_mono {x : EStateM ε σ α} {post' : α → σ → Prop} {fails' : ε → σ → Prop}
    (hx : wp x post fails s) (hpost : ∀ a s', post a s' → post' a s')
    (hfails : ∀ e s', fails e s' → fails' e s') : wp x post' fails' s := by
  unfold wp at *
  cases hrun : x s with
  | ok a s' =>
    rw [hrun] at hx
    exact hpost a s' hx
  | error e s' =>
    rw [hrun] at hx
    exact hfails e s' hx

/-- The postcondition alone is weakened. -/
theorem wp_mono_post {x : EStateM ε σ α} {post' : α → σ → Prop} (hx : wp x post fails s)
    (hpost : ∀ a s', post a s' → post' a s') : wp x post' fails s :=
  wp_mono hx hpost fun _ _ h => h

/-- Two postconditions that a program meets separately are met together. -/
theorem wp_and {x : EStateM ε σ α} {post' : α → σ → Prop} {fails' : ε → σ → Prop}
    (hx : wp x post fails s) (hx' : wp x post' fails' s) :
    wp x (fun a s' => post a s' ∧ post' a s') (fun e s' => fails e s' ∧ fails' e s') s := by
  unfold wp at *
  cases hrun : x s with
  | ok a s' =>
    rw [hrun] at hx hx'
    exact ⟨hx, hx'⟩
  | error e s' =>
    rw [hrun] at hx hx'
    exact ⟨hx, hx'⟩

theorem wp_ok {x : EStateM ε σ α} {a : α} {s' : σ} (hrun : x s = .ok a s') :
    wp x post fails s ↔ post a s' := by
  rw [wp, hrun]

theorem wp_error {x : EStateM ε σ α} {e : ε} {s' : σ} (hrun : x s = .error e s') :
    wp x post fails s ↔ fails e s' := by
  rw [wp, hrun]

/-- It is enough to look at the two ways a run can end. -/
theorem wp_of_run {x : EStateM ε σ α} (hok : ∀ a s', x s = .ok a s' → post a s')
    (herror : ∀ e s', x s = .error e s' → fails e s') : wp x post fails s := by
  unfold wp
  cases hrun : x s with
  | ok a s' => exact hok a s' hrun
  | error e s' => exact herror e s' hrun

/-- A program that cannot throw returns. -/
theorem ok_of_wp {x : EStateM ε σ α} (hx : wp x post (fun _ _ => False) s) :
    ∃ a s', x s = .ok a s' ∧ post a s' := by
  unfold wp at hx
  cases hrun : x s with
  | ok a s' =>
    rw [hrun] at hx
    exact ⟨a, s', rfl, hx⟩
  | error e s' =>
    rw [hrun] at hx
    exact hx.elim

/-- What else is known of a program that cannot throw holds where it returns. -/
theorem ok_of_wp_and {post' : α → σ → Prop} {x : EStateM ε σ α} (hx : wp x post (fun _ _ => False) s)
    (hx' : wp x post' fails s) : ∃ a s', x s = .ok a s' ∧ post a s' ∧ post' a s' := by
  obtain ⟨a, s', hrun, ha⟩ := ok_of_wp hx
  exact ⟨a, s', hrun, ha, (wp_ok hrun).mp hx'⟩

/-- A program that cannot return throws. -/
theorem error_of_wp {x : EStateM ε σ α} (hx : wp x (fun _ _ => False) fails s) :
    ∃ e s', x s = .error e s' ∧ fails e s' := by
  unfold wp at hx
  cases hrun : x s with
  | ok a s' =>
    rw [hrun] at hx
    exact hx.elim
  | error e s' =>
    rw [hrun] at hx
    exact ⟨e, s', rfl, hx⟩

/-- A postcondition on the state alone is one on the state a run stops in. -/
theorem wp_final {x : EStateM ε σ α} {post : σ → Prop} :
    wp x (fun _ => post) (fun _ => post) s ↔ post (final (x s)) := by
  unfold wp
  cases x s <;> rfl

/-- An invariant of the body is one of the loop. -/
theorem wp_forM {xs : List β} {body : β → EStateM ε σ PUnit} {inv : σ → Prop} {fails : ε → σ → Prop}
    (hbody : ∀ x ∈ xs, ∀ s, inv s → wp (body x) (fun _ => inv) fails s) {s : σ} (hs : inv s) :
    wp (forM xs body) (fun _ => inv) fails s := by
  induction xs generalizing s with
  | nil => exact hs
  | cons x xs ih =>
    rw [List.forM_cons, wp_bind]
    refine wp_mono_post (hbody x List.mem_cons_self s hs) fun _ s' hs' => ?_
    exact ih (fun y hy => hbody y (List.mem_cons_of_mem x hy)) hs'

end rules

/-- Every run of the program relates the state it starts in to the state it
stops in. -/
def Within (R : σ → σ → Prop) (x : EStateM ε σ α) : Prop := ∀ s, R s (final (x s))

theorem Within.wp {R : σ → σ → Prop} {x : EStateM ε σ α} (hx : Within R x) (s : σ) :
    wp x (fun _ => R s) (fun _ => R s) s :=
  wp_final.mpr (hx s)

section within

variable {R : σ → σ → Prop}

theorem within_pure [IsPreorder σ R] (a : α) : Within R (pure a : EStateM ε σ α) := fun s => refl_of R s

theorem within_throw [IsPreorder σ R] (e : ε) : Within R (throw e : EStateM ε σ α) := fun s => refl_of R s

theorem within_get [IsPreorder σ R] : Within R (get : EStateM ε σ σ) := fun s => refl_of R s

theorem within_modify {f : σ → σ} (hf : ∀ s, R s (f s)) : Within R (modify f : EStateM ε σ PUnit) := hf

/-- Sequencing composes the steps of the two parts. -/
theorem within_bind [IsPreorder σ R] {x : EStateM ε σ α} {f : α → EStateM ε σ β}
    (hx : Within R x) (hf : ∀ a, Within R (f a)) : Within R (x >>= f) := by
  intro s
  have hfirst := hx s
  simp only [Bind.bind, EStateM.bind]
  cases hrun : x s with
  | ok a s' =>
    rw [hrun] at hfirst
    exact trans_of R hfirst (hf a s')
  | error e s' => simpa [hrun, final] using hfirst

theorem within_map {x : EStateM ε σ α} (hx : Within R x) (f : α → β) : Within R (f <$> x) := by
  intro s
  have hfinal := hx s
  simp only [Functor.map, EStateM.map]
  cases hrun : x s with
  | ok a s' => simpa [hrun, final] using hfinal
  | error e s' => simpa [hrun, final] using hfinal

theorem within_ite {c : Prop} [Decidable c] {x y : EStateM ε σ α} (hx : c → Within R x)
    (hy : ¬ c → Within R y) : Within R (if c then x else y) := by
  split
  · exact hx ‹_›
  · exact hy ‹_›

/-- A loop over a list stays within a relation when its body does. -/
theorem within_forM [IsPreorder σ R] {xs : List β} {body : β → EStateM ε σ PUnit}
    (hbody : ∀ x ∈ xs, Within R (body x)) : Within R (forM xs body) := by
  induction xs with
  | nil => exact within_pure _
  | cons x xs ih =>
    rw [List.forM_cons]
    exact within_bind (hbody x List.mem_cons_self) fun _ =>
      ih fun y hy => hbody y (List.mem_cons_of_mem x hy)

end within

/-- Two states with the same value of `f`. -/
def Same (f : σ → β) (s s' : σ) : Prop := f s' = f s

instance (f : σ → β) : IsPreorder σ (Same f) where
  refl _ := rfl
  trans _ _ _ h h' := h'.trans h

/-- A program that leaves `f` of the state alone, on every path. -/
abbrev Keeps (f : σ → β) (x : EStateM ε σ α) : Prop := Within (Same f) x

end effect
