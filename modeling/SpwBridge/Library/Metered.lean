import SpwBridge.Library.Effect

open effect

namespace metered

variable {ε α β σ : Type}

/-- A program that may fail and that notes of every loop how many rounds it
made. -/
abbrev Metered (ε α : Type) : Type := EStateM ε (List Nat) α

/-- A statement without a loop. -/
def statement (x : Except ε α) : Metered ε α :=
  match x with
  | .ok a => pure a
  | .error e => throw e

/-- `n` rounds of a loop body from the counter `i`, counted from `made`. -/
def rounds (body : Nat → σ → Except ε σ) (i : Nat) : Nat → σ → Nat → Except ε (σ × Nat)
  | 0, s, made => .ok (s, made)
  | n + 1, s, made =>
    match body i s with
    | .ok s => rounds body (i + 1) n s (made + 1)
    | .error e => .error e

/-- A loop of `n` rounds, with a note of the rounds it made. -/
def loop (body : Nat → σ → Except ε σ) (i n : Nat) (s : σ) : Metered ε σ := do
  let result ← statement (rounds body i n s 0)
  modify (result.2 :: ·)
  pure result.1

/-- What a run returns or fails with, without its notes. -/
def value : EStateM.Result ε (List Nat) α → Except ε α
  | .ok a _ => .ok a
  | .error e _ => .error e

/-- Without its notes the program is `x`. -/
def Erases (m : Metered ε α) (x : Except ε α) : Prop := ∀ log, value (m log) = x

/-- No loop of the program makes more than `bound` rounds. -/
def Within (bound : Nat) (m : Metered ε α) : Prop :=
  ∀ log, (∀ made ∈ log, made ≤ bound) → wp m (fun _ log' => ∀ made ∈ log', made ≤ bound) (fun _ _ => True) log

/-- The program returns, and no loop of it makes more than `bound` rounds. -/
def Runs (bound : Nat) (m : Metered ε α) : Prop :=
  ∀ log, (∀ made ∈ log, made ≤ bound) → wp m (fun _ log' => ∀ made ∈ log', made ≤ bound) (fun _ _ => False) log

theorem erases_statement (x : Except ε α) : Erases (statement x) x := by
  intro log
  cases x <;> rfl

theorem erases_pure (a : α) : Erases (pure a : Metered ε α) (.ok a) := fun _ => rfl

theorem erases_bind {m : Metered ε α} {x : Except ε α} {f : α → Metered ε β} {g : α → Except ε β}
    (hm : Erases m x) (hf : ∀ a, Erases (f a) (g a)) : Erases (m >>= f) (x >>= g) := by
  intro log
  have h := hm log
  change value (EStateM.bind m f log) = Except.bind x g
  unfold EStateM.bind
  cases hrun : m log with
  | ok a log' =>
    rw [hrun] at h
    subst h
    exact hf a log'
  | error e log' =>
    rw [hrun] at h
    subst h
    rfl

theorem erases_bind_ok {m : Metered ε α} {a : α} {f : α → Metered ε β} {y : Except ε β} (hm : Erases m (.ok a))
    (hf : Erases (f a) y) : Erases (m >>= f) y := by
  intro log
  have h := hm log
  change value (EStateM.bind m f log) = y
  unfold EStateM.bind
  cases hrun : m log with
  | ok a' log' =>
    rw [hrun] at h
    cases h
    exact hf log'
  | error e log' =>
    rw [hrun] at h
    cases h

/-- A run from no notes. -/
theorem Erases.returns {m : Metered ε α} {a : α} (h : Erases m (.ok a)) : ∃ made, m [] = .ok a made := by
  have hvalue := h []
  cases hrun : m [] with
  | ok a' made =>
    rw [hrun] at hvalue
    cases hvalue
    exact ⟨made, rfl⟩
  | error e made =>
    rw [hrun] at hvalue
    cases hvalue

theorem erases_ite {c : Prop} [Decidable c] {m m' : Metered ε α} {x x' : Except ε α}
    (hm : Erases m x) (hm' : Erases m' x') : Erases (if c then m else m') (if c then x else x') := by
  split
  · exact hm
  · exact hm'

/-- The loop without its count. -/
theorem erases_loop {body : Nat → σ → Except ε σ} {i n : Nat} {s : σ} {x : Except ε σ}
    (hx : (rounds body i n s 0).map Prod.fst = x) : Erases (loop body i n s) x := by
  intro log
  subst hx
  change value (EStateM.bind (statement (rounds body i n s 0)) _ log) = _
  cases rounds body i n s 0 <;> rfl

/-- A count is the number of rounds that were made. -/
theorem rounds_made {body : Nat → σ → Except ε σ} {i n made : Nat} {s : σ} {result : σ × Nat}
    (h : rounds body i n s made = .ok result) : result.2 = made + n := by
  induction n generalizing i s made with
  | zero =>
    cases h
    rfl
  | succ n ih =>
    rw [rounds] at h
    cases hbody : body i s with
    | error e =>
      rw [hbody] at h
      cases h
    | ok s' =>
      rw [hbody] at h
      have hmade := ih h
      omega

/-- A loop whose rounds only succeed below a bound. -/
theorem rounds_bounded {body : Nat → σ → Except ε σ} {bound i n made : Nat} {s : σ} {result : σ × Nat}
    (hbody : ∀ i s s', body i s = .ok s' → i < bound) (h : rounds body i n s made = .ok result) :
    n = 0 ∨ i + n ≤ bound := by
  induction n generalizing i s made with
  | zero => exact Or.inl rfl
  | succ n ih =>
    rw [rounds] at h
    cases hround : body i s with
    | error e =>
      rw [hround] at h
      cases h
    | ok s' =>
      rw [hround] at h
      have hi := hbody i s s' hround
      obtain hlast | hmore := ih h
      · exact Or.inr (by omega)
      · exact Or.inr (by omega)

theorem within_statement (bound : Nat) (x : Except ε α) : Within bound (statement x) := by
  intro log hlog
  cases x with
  | ok a => exact hlog
  | error e => trivial

theorem within_pure (bound : Nat) (a : α) : Within bound (pure a : Metered ε α) := fun _ hlog => hlog

theorem within_bind {bound : Nat} {m : Metered ε α} {f : α → Metered ε β} (hm : Within bound m)
    (hf : ∀ a, Within bound (f a)) : Within bound (m >>= f) := by
  intro log hlog
  rw [wp_bind]
  exact wp_mono (hm log hlog) (fun a log' hlog' => hf a log' hlog') fun _ _ _ => trivial

theorem within_ite {c : Prop} [Decidable c] {bound : Nat} {m m' : Metered ε α} (hm : Within bound m)
    (hm' : Within bound m') : Within bound (if c then m else m') := by
  split
  · exact hm
  · exact hm'

/-- A loop whose every round needs its counter to be below the bound. -/
theorem within_loop {bound : Nat} {body : Nat → σ → Except ε σ}
    (hbody : ∀ i s s', body i s = .ok s' → i < bound) (i n : Nat) (s : σ) :
    Within bound (loop body i n s) := by
  intro log hlog
  rw [loop, wp_bind]
  cases hrun : rounds body i n s 0 with
  | error e => trivial
  | ok result =>
    have hmade := rounds_made hrun
    have hbound := rounds_bounded hbody hrun
    simp only [statement, wp_pure, wp_bind, wp_modify, List.mem_cons, forall_eq_or_imp]
    exact ⟨by omega, hlog⟩

/-- The program is `x` with notes, and its loops stay below the bound. -/
structure Meters (bound : Nat) (m : Metered ε α) (x : Except ε α) : Prop where
  erases : Erases m x
  within : Within bound m

theorem meters_statement (bound : Nat) (x : Except ε α) : Meters bound (statement x) x :=
  ⟨erases_statement x, within_statement bound x⟩

theorem meters_pure (bound : Nat) (a : α) : Meters bound (pure a : Metered ε α) (.ok a) :=
  ⟨erases_pure a, within_pure bound a⟩

theorem meters_bind {bound : Nat} {m : Metered ε α} {x : Except ε α} {f : α → Metered ε β} {g : α → Except ε β}
    (hm : Meters bound m x) (hf : ∀ a, Meters bound (f a) (g a)) : Meters bound (m >>= f) (x >>= g) :=
  ⟨erases_bind hm.erases fun a => (hf a).erases, within_bind hm.within fun a => (hf a).within⟩

theorem meters_ite {c : Prop} [Decidable c] {bound : Nat} {m m' : Metered ε α} {x x' : Except ε α}
    (hm : Meters bound m x) (hm' : Meters bound m' x') :
    Meters bound (if c then m else m') (if c then x else x') :=
  ⟨erases_ite hm.erases hm'.erases, within_ite hm.within hm'.within⟩

/-- A program that succeeds without its notes succeeds with them, and its loops
stay below the bound. -/
theorem Meters.returns {bound : Nat} {m : Metered ε α} {x : Except ε α} {a : α} (h : Meters bound m x)
    (hx : x = .ok a) : ∃ made, m [] = .ok a made ∧ ∀ n ∈ made, n ≤ bound := by
  have hvalue := h.erases []
  have hlog := h.within [] (by simp)
  unfold wp at hlog
  cases hrun : m [] with
  | ok a' made =>
    rw [hrun] at hvalue hlog
    rw [hx] at hvalue
    cases hvalue
    exact ⟨made, rfl, hlog⟩
  | error e made =>
    rw [hrun, hx] at hvalue
    cases hvalue

theorem runs_pure (bound : Nat) (a : α) : Runs bound (pure a : Metered ε α) := fun _ hlog => hlog

theorem runs_bind {bound : Nat} {m : Metered ε α} {f : α → Metered ε β} (hm : Runs bound m)
    (hf : ∀ a, Runs bound (f a)) : Runs bound (m >>= f) := by
  intro log hlog
  rw [wp_bind]
  exact wp_mono (hm log hlog) (fun a log' hlog' => hf a log' hlog') fun _ _ h => h

/-- A statement whose value is known. -/
theorem runs_bind_statement {bound : Nat} {x : Except ε α} {a : α} {f : α → Metered ε β} (hx : x = .ok a)
    (hf : Runs bound (f a)) : Runs bound (statement x >>= f) := by
  intro log hlog
  subst hx
  exact hf log hlog

theorem runs_ite {c : Prop} [Decidable c] {bound : Nat} {m m' : Metered ε α} (hm : c → Runs bound m)
    (hm' : ¬ c → Runs bound m') : Runs bound (if c then m else m') := by
  split
  case isTrue h => exact hm h
  case isFalse h => exact hm' h

/-- A loop whose every round succeeds. -/
theorem rounds_ok {body : Nat → σ → Except ε σ} {i n made : Nat} {s : σ}
    (hbody : ∀ k s, k < i + n → ∃ s', body k s = .ok s') :
    ∃ s', rounds body i n s made = .ok (s', made + n) := by
  induction n generalizing i s made with
  | zero => exact ⟨s, rfl⟩
  | succ n ih =>
    obtain ⟨s', hround⟩ := hbody i s (by omega)
    have hrest : ∀ k s, k < i + 1 + n → ∃ s', body k s = .ok s' := fun k s hk => hbody k s (by omega)
    obtain ⟨last, hlast⟩ := @ih (i + 1) (made + 1) s' hrest
    refine ⟨last, ?_⟩
    rw [rounds, hround]
    simp only [hlast]
    rw [Nat.add_right_comm, Nat.add_assoc]

theorem runs_loop {bound i n : Nat} {body : Nat → σ → Except ε σ}
    (hbody : ∀ k s, k < i + n → ∃ s', body k s = .ok s') (hn : n ≤ bound) (s : σ) :
    Runs bound (loop body i n s) := by
  obtain ⟨s', hrun⟩ := @rounds_ok _ _ body i n 0 s hbody
  intro log hlog
  rw [loop, wp_bind, hrun]
  simp only [statement, wp_pure, wp_bind, wp_modify, List.mem_cons, forall_eq_or_imp]
  exact ⟨by omega, hlog⟩

/-- Such a program, from no notes. -/
theorem Runs.returns {bound : Nat} {m : Metered ε α} (h : Runs bound m) :
    ∃ a made, m [] = .ok a made ∧ ∀ n ∈ made, n ≤ bound :=
  ok_of_wp (h [] (by simp))

end metered
