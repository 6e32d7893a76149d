import Mathlib.Data.Option.Basic
import Mathlib.Logic.Function.Basic
import SpwBridge.Library.Runs

/-! Threads that lock mutexes, are cancelled at cancellation points and then keep
what they own. -/

open runs

namespace cancellation

/-- What the code of a thread does with mutexes `M` and threads `T`, and the calls
`C` at which it can be cancelled. -/
inductive Script (M T C : Type)
  | skip
  | lock (m : M)
  | unlock (m : M)
  | point (c : C)
  | cancel (t : T)
  | join (t : T)
  | seq (first rest : Script M T C)
  | choice (left right : Script M T C)
  | loop (body : Script M T C)
  deriving DecidableEq, Repr

/-- A section under a mutex. -/
def Script.locked {M T C : Type} (m : M) (body : Script M T C) : Script M T C := .seq (.lock m) (.seq body (.unlock m))

/-- A sequence of scripts. -/
def Script.steps {M T C : Type} : List (Script M T C) → Script M T C
  | [] => .skip
  | script :: scripts => .seq script (steps scripts)

/-- A script that is not always run. -/
def Script.may {M T C : Type} (script : Script M T C) : Script M T C := .choice script .skip

/-- How many operations a script has, each loop taken once. -/
def Script.weight {M T C : Type} : Script M T C → Nat
  | .skip | .lock _ | .unlock _ | .point _ | .cancel _ | .join _ => 1
  | .seq first rest => first.weight + rest.weight + 1
  | .choice left right => left.weight + right.weight + 1
  | .loop body => body.weight + 1

theorem Script.weight_pos {M T C : Type} (script : Script M T C) : 0 < script.weight := by
  cases script <;> simp [Script.weight]

/-- Whether a thread is at a cancellation point. -/
def atPoint {M T C : Type} : List (Script M T C) → Bool
  | .point _ :: _ => true
  | _ => false

/-- The threads with what is left of their code, and the owners of the mutexes. -/
structure System (M T C : Type) where
  code : T → List (Script M T C)
  cancelled : T → Bool
  ended : T → Bool
  owner : M → Option T

namespace System

variable {M T C : Type} [DecidableEq T]

def goto (s : System M T C) (t : T) (code : List (Script M T C)) : System M T C :=
  { s with code := Function.update s.code t code }

@[simp] theorem goto_code (s : System M T C) (t : T) (code : List (Script M T C)) : (s.goto t code).code t = code := by
  simp [goto]

@[simp] theorem goto_owner (s : System M T C) (t : T) (code : List (Script M T C)) : (s.goto t code).owner = s.owner :=
  rfl

def finish (s : System M T C) (t : T) : System M T C := { s with ended := Function.update s.ended t true }

def kill (s : System M T C) (t : T) : System M T C := { s with cancelled := Function.update s.cancelled t true }

@[simp] theorem kill_owner (s : System M T C) (t : T) : (s.kill t).owner = s.owner := rfl

variable [DecidableEq M]

def own (s : System M T C) (m : M) (owner : Option T) : System M T C :=
  { s with owner := Function.update s.owner m owner }

/-- A thread does its next operation; the flag decides where its code leaves it
the choice. A cancelled thread ends at a cancellation point and releases
nothing. A thread that waits for a mutex or for another thread stays. -/
def step (s : System M T C) (a : T × Bool) : System M T C :=
  if s.ended a.1 then s
  else match s.code a.1 with
    | [] => s.finish a.1
    | .skip :: rest => s.goto a.1 rest
    | .lock m :: rest => if s.owner m = none then (s.own m (some a.1)).goto a.1 rest else s
    | .unlock m :: rest => (s.own m none).goto a.1 rest
    | .point _ :: rest => if s.cancelled a.1 then s.finish a.1 else s.goto a.1 rest
    | .cancel t :: rest => (s.kill t).goto a.1 rest
    | .join t :: rest => if s.ended t then s.goto a.1 rest else s
    | .seq first second :: rest => s.goto a.1 (first :: second :: rest)
    | .choice left right :: rest => s.goto a.1 ((if a.2 then left else right) :: rest)
    | .loop body :: rest => s.goto a.1 (if a.2 then body :: .loop body :: rest else rest)

end System

/-! ### Discipline

A thread holds at most one mutex, gives back the one that it holds, and waits
for nothing while it holds one. -/

section discipline

variable {M T C : Type} [DecidableEq M]

/-- The mutex that a thread holds after a script when it holds `held` before it.
Only an exposed mutex may be held at a cancellation point, and only killable
threads are cancelled. -/
def check (exposed : M → Bool) (killable : T → Bool) : Script M T C → Option M → Option (Option M)
  | .skip, held => some held
  | .lock m, none => some (some m)
  | .lock _, some _ => none
  | .unlock m, held => if held = some m then some none else none
  | .point _, held => if held.all exposed then some held else none
  | .cancel t, held => if killable t then some held else none
  | .join _, none => some none
  | .join _, some _ => none
  | .seq first rest, held => (check exposed killable first held).bind (check exposed killable rest)
  | .choice left right, held =>
    if check exposed killable left held = check exposed killable right held then check exposed killable left held
    else none
  | .loop body, held => if check exposed killable body held = some held then some held else none

/-- A script that leaves a thread with what it held before. -/
def Keeps (exposed : M → Bool) (killable : T → Bool) (held : Option M) (script : Script M T C) : Prop :=
  check exposed killable script held = some held

section keeps

variable {exposed : M → Bool} {killable : T → Bool} {held : Option M}

theorem keeps_skip : Keeps exposed killable held (.skip : Script M T C) := rfl

theorem keeps_point (c : C) (hexposed : held.all exposed) :
    Keeps exposed killable held (.point c : Script M T C) :=
  if_pos hexposed

theorem keeps_cancel {t : T} (hkillable : killable t = true) :
    Keeps exposed killable held (.cancel t : Script M T C) :=
  if_pos hkillable

theorem keeps_join (t : T) : Keeps exposed killable none (.join t : Script M T C) := rfl

theorem Keeps.seq {first rest : Script M T C} (hfirst : Keeps exposed killable held first)
    (hrest : Keeps exposed killable held rest) : Keeps exposed killable held (.seq first rest) :=
  Option.bind_eq_some_iff.mpr ⟨held, hfirst, hrest⟩

theorem Keeps.choice {left right : Script M T C} (hleft : Keeps exposed killable held left)
    (hright : Keeps exposed killable held right) : Keeps exposed killable held (.choice left right) :=
  (if_pos (hleft.trans hright.symm)).trans hleft

theorem Keeps.loop {body : Script M T C} (hbody : Keeps exposed killable held body) :
    Keeps exposed killable held (.loop body) :=
  if_pos hbody

theorem Keeps.may {script : Script M T C} (hscript : Keeps exposed killable held script) :
    Keeps exposed killable held (.may script) :=
  hscript.choice keeps_skip

/-- A section leaves nothing locked. -/
theorem Keeps.locked {m : M} {body : Script M T C} (hbody : Keeps exposed killable (some m) body) :
    Keeps exposed killable none (.locked m body) := by
  have hunlock : check exposed killable (.unlock m : Script M T C) (some m) = some none := if_pos rfl
  have hrest : check exposed killable (.seq body (.unlock m)) (some m) = some none :=
    Option.bind_eq_some_iff.mpr ⟨some m, hbody, hunlock⟩
  exact Option.bind_eq_some_iff.mpr ⟨some m, rfl, hrest⟩

theorem Keeps.ite {p : Prop} [Decidable p] {script script' : Script M T C}
    (hscript : p → Keeps exposed killable held script) (hscript' : ¬ p → Keeps exposed killable held script') :
    Keeps exposed killable held (if p then script else script') := by
  split_ifs with h
  · exact hscript h
  · exact hscript' h

end keeps

/-- `check` for what is left of the code of a thread. -/
def checks (exposed : M → Bool) (killable : T → Bool) : List (Script M T C) → Option M → Option (Option M)
  | [], held => some held
  | script :: rest, held => (check exposed killable script held).bind (checks exposed killable rest)

/-- A thread with some code left holds `held` and will hold nothing at its end. -/
def Holds (exposed : M → Bool) (killable : T → Bool) (code : List (Script M T C)) (held : Option M) : Prop :=
  checks exposed killable code held = some none

variable {exposed : M → Bool} {killable : T → Bool} {held : Option M} {code : List (Script M T C)}

theorem Holds.cons {script : Script M T C} (h : Holds exposed killable (script :: code) held) :
    ∃ held', check exposed killable script held = some held' ∧ Holds exposed killable code held' :=
  Option.bind_eq_some_iff.mp h

theorem Holds.of_check {script : Script M T C} {held' : Option M}
    (hcheck : check exposed killable script held = some held') (h : Holds exposed killable code held') :
    Holds exposed killable (script :: code) held :=
  Option.bind_eq_some_iff.mpr ⟨held', hcheck, h⟩

/-- Code of scripts that keep what they find ends with nothing. -/
theorem holds_none (hcode : ∀ script ∈ code, Keeps exposed killable none script) :
    Holds exposed killable code none := by
  induction code with
  | nil => rfl
  | cons script code ih =>
    have hrest := ih fun script h => hcode script (List.mem_cons_of_mem _ h)
    exact .of_check (hcode script List.mem_cons_self) hrest

theorem Holds.nil (h : Holds exposed killable ([] : List (Script M T C)) held) : held = none := Option.some.inj h

theorem Holds.skip (h : Holds exposed killable (.skip :: code) held) : Holds exposed killable code held := by
  obtain ⟨held', hcheck, h⟩ := h.cons
  rwa [Option.some.inj hcheck]

theorem Holds.lock {m : M} (h : Holds exposed killable (.lock m :: code) held) :
    held = none ∧ Holds exposed killable code (some m) := by
  obtain ⟨held', hcheck, h⟩ := h.cons
  cases held with
  | none => exact ⟨rfl, by rwa [Option.some.inj hcheck]⟩
  | some m' => cases hcheck

theorem Holds.unlock {m : M} (h : Holds exposed killable (.unlock m :: code) held) :
    held = some m ∧ Holds exposed killable code none := by
  obtain ⟨held', hcheck, h⟩ := h.cons
  rw [check] at hcheck
  split_ifs at hcheck with hheld
  exact ⟨hheld, by rwa [Option.some.inj hcheck]⟩

theorem Holds.point {c : C} (h : Holds exposed killable (.point c :: code) held) :
    held.all exposed ∧ Holds exposed killable code held := by
  obtain ⟨held', hcheck, h⟩ := h.cons
  rw [check] at hcheck
  split_ifs at hcheck with hexposed
  exact ⟨hexposed, by rwa [Option.some.inj hcheck]⟩

theorem Holds.cancel {t : T} (h : Holds exposed killable (.cancel t :: code) held) :
    killable t ∧ Holds exposed killable code held := by
  obtain ⟨held', hcheck, h⟩ := h.cons
  rw [check] at hcheck
  split_ifs at hcheck with hkillable
  exact ⟨hkillable, by rwa [Option.some.inj hcheck]⟩

theorem Holds.join {t : T} (h : Holds exposed killable (.join t :: code) held) :
    held = none ∧ Holds exposed killable code none := by
  obtain ⟨held', hcheck, h⟩ := h.cons
  cases held with
  | none => exact ⟨rfl, by rwa [Option.some.inj hcheck]⟩
  | some m' => cases hcheck

theorem Holds.seq {first rest : Script M T C} (h : Holds exposed killable (.seq first rest :: code) held) :
    Holds exposed killable (first :: rest :: code) held := by
  obtain ⟨after, hcheck, h⟩ := h.cons
  obtain ⟨mid, hfirst, hrest⟩ := Option.bind_eq_some_iff.mp hcheck
  exact .of_check hfirst (.of_check hrest h)

theorem Holds.choice {left right : Script M T C} (h : Holds exposed killable (.choice left right :: code) held)
    (taken : Bool) : Holds exposed killable ((if taken then left else right) :: code) held := by
  obtain ⟨after, hcheck, h⟩ := h.cons
  rw [check] at hcheck
  split_ifs at hcheck with hsame
  cases taken with
  | true => exact .of_check hcheck h
  | false => exact .of_check (hsame ▸ hcheck) h

theorem Holds.loop {body : Script M T C} (h : Holds exposed killable (.loop body :: code) held) (again : Bool) :
    Holds exposed killable (if again then body :: .loop body :: code else code) held := by
  obtain ⟨after, hcheck, hrest⟩ := h.cons
  rw [check] at hcheck
  split_ifs at hcheck with hbody
  cases hcheck
  cases again with
  | true => exact .of_check hbody h
  | false => exact hrest

end discipline

/-! ### Systems of disciplined threads -/

namespace System

variable {M T C : Type} [DecidableEq M] [DecidableEq T] {exposed : T → M → Bool} {killable : T → Bool}
  {s : System M T C}

/-- A live thread owns what its code makes it hold, and an ended one nothing. -/
structure Disciplined (exposed : T → M → Bool) (killable : T → Bool) (s : System M T C) : Prop where
  live : ∀ t, s.ended t = false →
    ∃ held, Holds (exposed t) killable (s.code t) held ∧ ∀ m, s.owner m = some t ↔ held = some m
  ended : ∀ t, s.ended t = true → ∀ m, s.owner m ≠ some t
  killed : ∀ t, s.cancelled t = true → killable t = true

/-- A cancelled thread does not reach a cancellation point while it owns a mutex. -/
def Safe (s : System M T C) (a : T × Bool) : Prop :=
  s.cancelled a.1 = true → atPoint (s.code a.1) = true → ∀ m, s.owner m ≠ some a.1

/-- A thread goes on with what it holds. -/
theorem Disciplined.goto (hs : s.Disciplined exposed killable) {t : T} {code : List (Script M T C)}
    (hcode : ∀ held, Holds (exposed t) killable (s.code t) held → Holds (exposed t) killable code held) :
    (s.goto t code).Disciplined exposed killable where
  live u hu := by
    obtain ⟨held, hholds, howner⟩ := hs.live u hu
    refine ⟨held, ?_, howner⟩
    by_cases hut : u = t
    · subst hut
      simpa [System.goto] using hcode held hholds
    · simpa [System.goto, Function.update_of_ne hut] using hholds
  ended := hs.ended
  killed := hs.killed

/-- A thread takes a mutex that is free. -/
theorem Disciplined.lock (hs : s.Disciplined exposed killable) {t : T} (hlive : s.ended t = false) {m : M}
    {rest : List (Script M T C)} (hcode : s.code t = .lock m :: rest) (hfree : s.owner m = none) :
    ((s.own m (some t)).goto t rest).Disciplined exposed killable where
  live u hu := by
    obtain ⟨held, hholds, howner⟩ := hs.live u hu
    by_cases hut : u = t
    · subst hut
      rw [hcode] at hholds
      obtain ⟨rfl, hrest⟩ := hholds.lock
      refine ⟨some m, by simpa [System.goto] using hrest, fun m' => ?_⟩
      by_cases hm : m' = m
      · simp [System.goto, own, hm]
      · have hnone := howner m'
        simp only [System.goto, own, Function.update_of_ne hm, hnone]
        simpa using Ne.symm hm
    · refine ⟨held, by simpa [System.goto, own, Function.update_of_ne hut] using hholds, fun m' => ?_⟩
      rw [← howner m']
      by_cases hm : m' = m
      · simp [System.goto, own, hm, hfree, Ne.symm hut]
      · simp [System.goto, own, Function.update_of_ne hm]
  ended u hu m' := by
    by_cases hm : m' = m
    · have hut : t ≠ u := fun h => by rw [h] at hlive; exact absurd (hlive.symm.trans hu) nofun
      simpa [System.goto, own, hm] using hut
    · simpa [System.goto, own, Function.update_of_ne hm] using hs.ended u hu m'
  killed := hs.killed

/-- A thread gives back the mutex that it holds. -/
theorem Disciplined.unlock (hs : s.Disciplined exposed killable) {t : T} (hlive : s.ended t = false) {m : M}
    {rest : List (Script M T C)} (hcode : s.code t = .unlock m :: rest) :
    ((s.own m none).goto t rest).Disciplined exposed killable where
  live u hu := by
    obtain ⟨held, hholds, howner⟩ := hs.live u hu
    obtain ⟨held', hholds', howner'⟩ := hs.live t hlive
    rw [hcode] at hholds'
    obtain ⟨rfl, hrest⟩ := hholds'.unlock
    have howned := (howner' m).mpr rfl
    by_cases hut : u = t
    · subst hut
      refine ⟨none, by simpa [System.goto] using hrest, fun m' => ?_⟩
      by_cases hm : m' = m
      · simp [System.goto, own, hm]
      · have hother := howner' m'
        simp only [System.goto, own, Function.update_of_ne hm, hother]
        simpa using Ne.symm hm
    · refine ⟨held, by simpa [System.goto, own, Function.update_of_ne hut] using hholds, fun m' => ?_⟩
      rw [← howner m']
      by_cases hm : m' = m
      · simp [System.goto, own, hm, howned, Ne.symm hut]
      · simp [System.goto, own, Function.update_of_ne hm]
  ended u hu m' := by
    by_cases hm : m' = m
    · simp [System.goto, own, hm]
    · simpa [System.goto, own, Function.update_of_ne hm] using hs.ended u hu m'
  killed := hs.killed

/-- A thread ends with nothing in its hands. -/
theorem Disciplined.finish (hs : s.Disciplined exposed killable) {t : T} (hnone : ∀ m, s.owner m ≠ some t) :
    (s.finish t).Disciplined exposed killable where
  live u hu := by
    have hut : u ≠ t := fun h => by simp [System.finish, h] at hu
    exact hs.live u (by simpa [System.finish, Function.update_of_ne hut] using hu)
  ended u hu := by
    by_cases hut : u = t
    · exact hut ▸ hnone
    · exact hs.ended u (by simpa [System.finish, Function.update_of_ne hut] using hu)
  killed := hs.killed

theorem Disciplined.kill (hs : s.Disciplined exposed killable) {t : T} (hkillable : killable t = true) :
    (s.kill t).Disciplined exposed killable where
  live := hs.live
  ended := hs.ended
  killed u hu := by
    by_cases hut : u = t
    · exact hut ▸ hkillable
    · exact hs.killed u (by simpa [System.kill, Function.update_of_ne hut] using hu)

/-- A safe step keeps the discipline. -/
theorem Disciplined.step (hs : s.Disciplined exposed killable) {a : T × Bool} (hsafe : s.Safe a) :
    (s.step a).Disciplined exposed killable := by
  obtain ⟨t, taken⟩ := a
  simp only [System.step]
  by_cases hended : s.ended t = true
  · rwa [if_pos hended]
  · rw [if_neg hended]
    have hlive : s.ended t = false := by simpa using hended
    obtain ⟨held, hholds, howner⟩ := hs.live t hlive
    have hgoto : ∀ {code}, (∀ held, Holds (exposed t) killable (s.code t) held →
        Holds (exposed t) killable code held) → (s.goto t code).Disciplined exposed killable := hs.goto
    split
    next hcode =>
      rw [hcode] at hholds
      refine hs.finish fun m howned => ?_
      exact absurd (hholds.nil.symm.trans ((howner m).mp howned)) nofun
    next hcode => exact hgoto fun held h => (hcode ▸ h).skip
    next m rest hcode =>
      split_ifs with hfree
      · exact hs.lock hlive hcode hfree
      · exact hs
    next m rest hcode => exact hs.unlock hlive hcode
    next c rest hcode =>
      split_ifs with hcancelled
      · exact hs.finish (hsafe hcancelled (by rw [hcode]; rfl))
      · exact hgoto fun held h => (hcode ▸ h).point.2
    next u rest hcode =>
      rw [hcode] at hholds
      have hkilled := hs.kill hholds.cancel.1
      exact hkilled.goto fun held h => (hcode ▸ h : Holds (exposed t) killable (.cancel u :: rest) held).cancel.2
    next u rest hcode =>
      split_ifs
      · refine hgoto fun held h => ?_
        obtain ⟨rfl, hrest⟩ := (hcode ▸ h : Holds (exposed t) killable (.join u :: rest) held).join
        exact hrest
      · exact hs
    next hcode => exact hgoto fun held h => (hcode ▸ h).seq
    next hcode => exact hgoto fun held h => (hcode ▸ h).choice taken
    next hcode => exact hgoto fun held h => (hcode ▸ h).loop taken

omit [DecidableEq T] in
/-- The owner of a mutex is alive. -/
theorem Disciplined.owner_live (hs : s.Disciplined exposed killable) {t : T} {m : M} (howner : s.owner m = some t) :
    s.ended t = false := by
  by_contra hended
  exact hs.ended t (by simpa using hended) m howner

omit [DecidableEq T] in
/-- At a cancellation point a thread owns exposed mutexes only. -/
theorem Disciplined.exposed_at_point (hs : s.Disciplined exposed killable) {t : T} (hpoint : atPoint (s.code t) = true)
    {m : M} (howner : s.owner m = some t) : exposed t m = true := by
  obtain ⟨held, hholds, howned⟩ := hs.live t (hs.owner_live howner)
  unfold atPoint at hpoint
  split at hpoint
  next hcode =>
    rw [hcode] at hholds
    have hexposed := hholds.point.1
    rw [(howned m).mp howner] at hexposed
    simpa using hexposed
  next => cases hpoint

/-- A step of another thread leaves the code of a thread. -/
theorem step_code_of_ne {a : T × Bool} {t : T} (hne : t ≠ a.1) : (s.step a).code t = s.code t := by
  simp only [System.step]
  split
  · rfl
  · split <;> try split
    all_goals simp [System.goto, System.finish, own, System.kill, Function.update_of_ne hne]

/-- A thread is joined only when it has ended. -/
theorem step_join {a : T × Bool} {t u : T} (hjoin : .join u ∈ s.code t) :
    .join u ∈ (s.step a).code t ∨ s.ended u = true := by
  by_cases hne : t = a.1
  · subst hne
    simp only [System.step]
    by_cases hended : s.ended a.1 = true
    · rw [if_pos hended]
      exact Or.inl hjoin
    · rw [if_neg hended]
      cases hcode : s.code a.1 with
      | nil =>
        rw [hcode] at hjoin
        cases hjoin
      | cons script rest =>
        rw [hcode] at hjoin
        cases script with
        | join v =>
          by_cases hv : s.ended v = true
          · rcases List.mem_cons.mp hjoin with heq | hrest
            · cases heq
              exact Or.inr hv
            · exact Or.inl (by simpa [hv] using hrest)
          · exact Or.inl (by simpa [hv, hcode] using hjoin)
        | skip | lock | unlock | point | cancel | seq | choice | loop =>
          have hrest := (List.mem_cons.mp hjoin).resolve_left nofun
          refine Or.inl ?_
          dsimp only
          try split_ifs
          all_goals simp [System.finish, hcode, hrest]
  · rw [step_code_of_ne hne]
    exact Or.inl hjoin

theorem step_ended {a : T × Bool} {t : T} (hended : s.ended t = true) : (s.step a).ended t = true := by
  simp only [System.step]
  split
  · exact hended
  · split <;> try split
    all_goals simp_all [System.goto, System.finish, own, System.kill, Function.update_apply]

/-- An owner that is not cancelled with the mutex gives it back by steps of its own. -/
theorem Disciplined.gives_back (hs : s.Disciplined exposed killable) {t : T} {m : M}
    (hspared : killable t = true → exposed t m = false) (howner : s.owner m = some t) :
    ∃ choices : List Bool, (run System.step s (choices.map fun taken => (t, taken))).owner m = none := by
  induction hweight : ((s.code t).map Script.weight).sum using Nat.strongRecOn generalizing s with
  | ind weight ih =>
    have hlive := hs.owner_live howner
    have hpassed : s.cancelled t = true → ¬ atPoint (s.code t) = true := by
      intro hcancelled hpoint
      have hexposed := hs.exposed_at_point hpoint howner
      exact absurd ((hspared (hs.killed t hcancelled)).symm.trans hexposed) nofun
    have hstep := hs.step (a := (t, false)) fun hcancelled hpoint => absurd hpoint (hpassed hcancelled)
    obtain ⟨held, hholds, howned⟩ := hs.live t hlive
    obtain rfl := (howned m).mp howner
    have hnext : ∀ code, (s.step (t, false)).owner m = some t → (s.step (t, false)).code t = code →
        (code.map Script.weight).sum < weight →
        ∃ choices : List Bool, (run System.step s (choices.map fun taken => (t, taken))).owner m = none := by
      intro code howner' hcode hlighter
      obtain ⟨choices, hfree⟩ := ih _ hlighter hstep howner' (by rw [hcode])
      exact ⟨false :: choices, hfree⟩
    cases hcode : s.code t with
    | nil =>
      rw [hcode] at hholds
      exact absurd hholds.nil nofun
    | cons script rest =>
      have hsum : script.weight + (rest.map Script.weight).sum = weight := by
        rw [← hweight, hcode, List.map_cons, List.sum_cons]
      have hpos := script.weight_pos
      rw [hcode] at hholds
      cases script with
      | skip => apply hnext rest _ _ (by omega) <;> simp [System.step, hlive, hcode, howner]
      | lock m' => exact absurd hholds.lock.1 nofun
      | unlock m' =>
        obtain rfl := Option.some.inj hholds.unlock.1
        exact ⟨[false], by simp [System.step, hlive, hcode, System.goto, own]⟩
      | point c =>
        have hcancelled : s.cancelled t = false := by
          by_contra h
          exact hpassed (by simpa using h) (by rw [hcode]; rfl)
        apply hnext rest _ _ (by omega) <;> simp [System.step, hlive, hcode, hcancelled, howner]
      | cancel u => apply hnext rest _ _ (by omega) <;> simp [System.step, hlive, hcode, howner]
      | join u => exact absurd hholds.join.1 nofun
      | seq first second =>
        simp only [Script.weight] at hsum
        apply hnext (first :: second :: rest) <;> simp [System.step, hlive, hcode, howner]
        omega
      | choice left right =>
        simp only [Script.weight] at hsum
        apply hnext (right :: rest) <;> simp [System.step, hlive, hcode, howner]
        omega
      | loop body =>
        simp only [Script.weight] at hsum
        apply hnext rest _ _ (by omega) <;> simp [System.step, hlive, hcode, howner]

/-- An owner that is never cancelled gives the mutex back by steps of its own. -/
theorem Disciplined.releases (hs : s.Disciplined exposed killable) {t : T} (hspared : killable t = false) {m : M}
    (howner : s.owner m = some t) :
    ∃ choices : List Bool, (run System.step s (choices.map fun taken => (t, taken))).owner m = none :=
  hs.gives_back (fun hkillable => absurd (hspared.symm.trans hkillable) nofun) howner

end System

end cancellation
