import Mathlib.Algebra.Ring.Nat
import SpwBridge.Library.Cancellation

/-! Threads that wait for each other in an order end. -/

open runs

namespace cancellation

/-- The threads that a script waits for. -/
def Script.joins {M T C : Type} : Script M T C → List T
  | .skip | .lock _ | .unlock _ | .point _ | .cancel _ => []
  | .join t => [t]
  | .seq first rest => first.joins ++ rest.joins
  | .choice left right => left.joins ++ right.joins
  | .loop body => body.joins

namespace System

variable {M T C : Type} [DecidableEq T] {s : System M T C}

/-- The threads that the code of a thread still waits for. -/
def joins (s : System M T C) (t : T) : List T := (s.code t).flatMap Script.joins

/-- How much of the code of a thread is left, each loop taken once. -/
def left (s : System M T C) (t : T) : Nat := ((s.code t).map Script.weight).sum

variable [DecidableEq M]

/-- A step adds nothing to what the threads wait for. -/
theorem step_joins (a : T × Bool) (t : T) : (s.step a).joins t ⊆ s.joins t := by
  by_cases hne : t = a.1
  · subst hne
    simp only [System.step, joins]
    split
    · exact List.Subset.refl _
    · cases hcode : s.code a.1 with
      | nil => simp [System.finish, hcode]
      | cons script rest =>
        cases script with
        | skip | unlock | cancel => simp [Script.joins]
        | lock | point | join =>
          dsimp only
          split_ifs <;> simp [System.finish, hcode, Script.joins]
        | seq first second => simp [Script.joins]
        | choice left right =>
          cases a.2 <;> simp [Script.joins]
        | loop body =>
          cases a.2 <;> simp [Script.joins]
  · rw [joins, step_code_of_ne hne]
    exact List.Subset.refl _

theorem run_joins (actions : List (T × Bool)) (t : T) : (run step s actions).joins t ⊆ s.joins t := by
  induction actions generalizing s with
  | nil => exact List.Subset.refl _
  | cons a actions ih => exact List.Subset.trans ih (step_joins a t)

theorem run_ended (actions : List (T × Bool)) {t : T} (hended : s.ended t = true) :
    (run step s actions).ended t = true := by
  induction actions generalizing s with
  | nil => exact hended
  | cons a actions ih => exact ih (step_ended hended)

/-- A step of another thread does not end a thread. -/
theorem step_ended_of_ne {a : T × Bool} {t : T} (hne : t ≠ a.1) : (s.step a).ended t = s.ended t := by
  simp only [System.step]
  split
  · rfl
  · split <;> try split
    all_goals simp [System.goto, System.finish, own, System.kill, Function.update_of_ne hne]

/-- A cancelled thread ends at a cancellation point. -/
theorem step_at_point {t : T} (hlive : s.ended t = false) (hcancelled : s.cancelled t = true)
    (hpoint : atPoint (s.code t) = true) (taken : Bool) : s.step (t, taken) = s.finish t := by
  unfold atPoint at hpoint
  split at hpoint
  next hcode => simp [System.step, hlive, hcode, hcancelled]
  next => cases hpoint

/-- A thread that nobody cancels ends with its code. -/
theorem step_ended_code {a : T × Bool} {t : T} (hcancelled : s.cancelled t = false)
    (hcode : s.ended t = true → s.code t = []) (hended : (s.step a).ended t = true) : (s.step a).code t = [] := by
  by_cases hne : t = a.1
  · subst hne
    cases hlive : s.ended a.1 with
    | true => simpa [System.step, hlive] using hcode hlive
    | false =>
      cases hleft : s.code a.1 with
      | nil => simp [System.step, hlive, hleft, System.finish]
      | cons script rest =>
        -- only a cancelled thread would end here
        refine absurd hended ?_
        cases script <;> simp only [System.step, hlive, hleft, hcancelled] <;> try split_ifs
        all_goals simp_all [System.goto, own, System.kill]
  · rw [step_code_of_ne hne]
    exact hcode ((step_ended_of_ne hne).symm.trans hended)

/-- The steps of one thread leave the code of another one. -/
theorem run_code_of_ne {t u : T} (hne : t ≠ u) (choices : List Bool) :
    (run step s (choices.map fun taken => (u, taken))).code t = s.code t := by
  induction choices generalizing s with
  | nil => rfl
  | cons taken choices ih => exact ih.trans (step_code_of_ne hne)

/-! ### Threads that own nothing where they are cancelled -/

/-- No thread that may be cancelled owns a mutex at a cancellation point. -/
def Covered (exposed : T → M → Bool) (killable : T → Bool) : Prop := ∀ t m, killable t = true → exposed t m = false

variable {exposed : T → M → Bool} {killable : T → Bool}

omit [DecidableEq T] in
theorem Disciplined.safe (hs : s.Disciplined exposed killable) (hcovered : Covered exposed killable)
    (a : T × Bool) : s.Safe a := by
  intro hcancelled hpoint m howner
  have hexposed := hs.exposed_at_point hpoint howner
  exact absurd ((hcovered a.1 m (hs.killed a.1 hcancelled)).symm.trans hexposed) nofun

theorem Disciplined.reached (hs : s.Disciplined exposed killable) (hcovered : Covered exposed killable)
    (actions : List (T × Bool)) : (run System.step s actions).Disciplined exposed killable := by
  induction actions generalizing s with
  | nil => exact hs
  | cons a actions ih => exact ih (hs.step (hs.safe hcovered a))

/-- A thread that waits for ended threads only can be run to its end, whatever the
others hold. -/
theorem Disciplined.ends (hs : s.Disciplined exposed killable) (hcovered : Covered exposed killable) {t : T}
    (hjoins : ∀ u ∈ s.joins t, s.ended u = true) : ∃ actions, (run System.step s actions).ended t = true := by
  induction hleft : s.left t using Nat.strongRecOn generalizing s with
  | ind weight ih =>
    have hlater : ∀ before, (run System.step s before).left t < weight →
        ∃ actions, (run System.step s actions).ended t = true := by
      intro before hlighter
      have hstill : ∀ u ∈ (run System.step s before).joins t, (run System.step s before).ended u = true :=
        fun u hu => run_ended before (hjoins u (run_joins before t hu))
      obtain ⟨actions, hended⟩ := ih _ hlighter (hs.reached hcovered before) hstill rfl
      exact ⟨before ++ actions, by rwa [run_append]⟩
    cases hended : s.ended t with
    | true => exact ⟨[], hended⟩
    | false =>
      obtain ⟨held, hholds, howned⟩ := hs.live t hended
      cases hcode : s.code t with
      | nil => exact ⟨[(t, false)], by simp [System.step, hended, hcode, System.finish]⟩
      | cons script rest =>
        have hsum : script.weight + (rest.map Script.weight).sum = weight := by
          rw [← hleft, left, hcode, List.map_cons, List.sum_cons]
        have hpos := script.weight_pos
        cases script with
        | skip | unlock | cancel =>
          apply hlater [(t, false)]
          simp [left, System.step, hended, hcode]
          omega
        | lock m =>
          cases howner : s.owner m with
          | none =>
            apply hlater [(t, false)]
            simp [left, System.step, hended, hcode, howner]
            omega
          | some u =>
            -- the owner is another thread, for this one holds nothing
            have hne : t ≠ u := by
              rintro rfl
              rw [hcode] at hholds
              cases hholds.lock.1.symm.trans ((howned m).mp howner)
            obtain ⟨choices, hfree⟩ := hs.gives_back (hcovered u m) howner
            have hcode' := (run_code_of_ne (s := s) hne choices).trans hcode
            cases hended' : (run System.step s (choices.map fun taken => (u, taken))).ended t with
            | true => exact ⟨_, hended'⟩
            | false =>
              apply hlater (choices.map (fun taken => (u, taken)) ++ [(t, false)])
              rw [run_append]
              simp [left, System.step, hended', hcode', hfree]
              omega
        | point c =>
          cases hcancelled : s.cancelled t with
          | true => exact ⟨[(t, false)], by simp [System.step, hended, hcode, hcancelled, System.finish]⟩
          | false =>
            apply hlater [(t, false)]
            simp [left, System.step, hended, hcode, hcancelled]
            omega
        | join u =>
          have hu : s.ended u = true := hjoins u (by simp [System.joins, hcode, Script.joins])
          apply hlater [(t, false)]
          simp [left, System.step, hended, hcode, hu]
          omega
        | seq first second =>
          simp only [Script.weight] at hsum
          apply hlater [(t, false)]
          simp [left, System.step, hended, hcode]
          omega
        | choice left' right =>
          simp only [Script.weight] at hsum
          apply hlater [(t, false)]
          simp [left, System.step, hended, hcode]
          omega
        | loop body =>
          simp only [Script.weight] at hsum
          apply hlater [(t, false)]
          simp [left, System.step, hended, hcode]
          omega

/-- The threads wait for each other in the order of their ranks only. -/
def Ranked (rank : T → Nat) (s : System M T C) : Prop := ∀ t, ∀ u ∈ s.joins t, rank u < rank t

theorem Ranked.reached {rank : T → Nat} (hranked : s.Ranked rank) (actions : List (T × Bool)) :
    (run step s actions).Ranked rank := fun t u hu => hranked t u (run_joins actions t hu)

/-- Threads that can be run to their ends one by one can be run to their ends together. -/
theorem Disciplined.end_together (hs : s.Disciplined exposed killable) (hcovered : Covered exposed killable)
    {rank : T → Nat} (hranked : s.Ranked rank) (ts : List T)
    (hends : ∀ t ∈ ts, ∀ s' : System M T C, s'.Disciplined exposed killable → s'.Ranked rank →
      ∃ actions, (run System.step s' actions).ended t = true) :
    ∃ actions, ∀ t ∈ ts, (run System.step s actions).ended t = true := by
  induction ts generalizing s with
  | nil => exact ⟨[], fun t ht => absurd ht List.not_mem_nil⟩
  | cons t ts ih =>
    obtain ⟨first, hended⟩ := hends t List.mem_cons_self s hs hranked
    obtain ⟨later, hall⟩ := ih (hs.reached hcovered first) (hranked.reached first) fun u hu =>
      hends u (List.mem_cons_of_mem _ hu)
    refine ⟨first ++ later, fun u hu => ?_⟩
    rw [run_append]
    rcases List.mem_cons.mp hu with rfl | hu
    · exact run_ended later hended
    · exact hall u hu

/-- Every thread can be run to its end. -/
theorem Disciplined.can_end (hs : s.Disciplined exposed killable) (hcovered : Covered exposed killable)
    {rank : T → Nat} (hranked : s.Ranked rank) (t : T) :
    ∃ actions, (run System.step s actions).ended t = true := by
  induction hrank : rank t using Nat.strongRecOn generalizing s t with
  | ind level ih =>
    obtain ⟨first, hall⟩ := hs.end_together hcovered hranked (s.joins t) fun u hu s' hs' hranked' =>
      ih (rank u) (hrank ▸ hranked t u hu) hs' hranked' u rfl
    have hjoins : ∀ u ∈ (run System.step s first).joins t, (run System.step s first).ended u = true :=
      fun u hu => hall u (run_joins first t hu)
    obtain ⟨later, hended⟩ := (hs.reached hcovered first).ends hcovered hjoins
    exact ⟨first ++ later, by rwa [run_append]⟩

/-- No deadlock: disciplined threads that wait for each other in an order can all be
run to their ends, and no mutex is left locked. -/
theorem Disciplined.completes (hs : s.Disciplined exposed killable) (hcovered : Covered exposed killable)
    {rank : T → Nat} (hranked : s.Ranked rank) {ts : List T} (hts : ∀ t, t ∈ ts) :
    ∃ actions, (∀ t, (run System.step s actions).ended t = true) ∧
      ∀ m, (run System.step s actions).owner m = none := by
  obtain ⟨actions, hall⟩ := hs.end_together hcovered hranked ts fun t _ s' hs' hranked' =>
    hs'.can_end hcovered hranked' t
  refine ⟨actions, fun t => hall t (hts t), fun m => ?_⟩
  by_contra howned
  obtain ⟨u, hu⟩ := Option.ne_none_iff_exists'.mp howned
  exact (hs.reached hcovered actions).ended u (hall u (hts u)) m hu

/-! ### A mutex whose owner has ended -/

/-- The owner of a mutex has ended, and none of the other threads holds it. -/
structure Orphaned (exposed : T → M → Bool) (killable : T → Bool) (m : M) (t : T) (s : System M T C) : Prop where
  owner : s.owner m = some t
  ended : s.ended t = true
  others : ∀ u, s.ended u = false → ∃ held, Holds (exposed u) killable (s.code u) held ∧ held ≠ some m

section orphaned

variable {m : M} {t : T}

/-- A thread that ends at a cancellation point leaves the mutex that it owns. -/
theorem Disciplined.orphans (hs : s.Disciplined exposed killable) (howner : s.owner m = some t) :
    (s.finish t).Orphaned exposed killable m t where
  owner := howner
  ended := Function.update_self _ _ _
  others u hu := by
    have hut : u ≠ t := fun h => by simp [System.finish, h] at hu
    obtain ⟨held, hholds, howned⟩ := hs.live u (by simpa [System.finish, Function.update_of_ne hut] using hu)
    refine ⟨held, hholds, fun hheld => ?_⟩
    have hown := (howned m).mpr hheld
    exact hut (Option.some.inj (hown.symm.trans howner))

/-- A thread goes on, and what it holds is still another mutex. -/
theorem Orphaned.goto (hs : s.Orphaned exposed killable m t) {u : T} {code : List (Script M T C)}
    (hcode : ∀ held, Holds (exposed u) killable (s.code u) held → held ≠ some m →
      ∃ held', Holds (exposed u) killable code held' ∧ held' ≠ some m) :
    (s.goto u code).Orphaned exposed killable m t where
  owner := hs.owner
  ended := hs.ended
  others v hv := by
    obtain ⟨held, hholds, hheld⟩ := hs.others v hv
    by_cases hvu : v = u
    · subst hvu
      simpa [System.goto] using hcode held hholds hheld
    · exact ⟨held, by simpa [System.goto, Function.update_of_ne hvu] using hholds, hheld⟩

omit [DecidableEq T] in
/-- Another mutex is taken or given back. -/
theorem Orphaned.own (hs : s.Orphaned exposed killable m t) {m' : M} (hne : m' ≠ m) (owner : Option T) :
    (s.own m' owner).Orphaned exposed killable m t where
  owner := (Function.update_of_ne hne.symm _ _).trans hs.owner
  ended := hs.ended
  others := hs.others

/-- Nobody gives the mutex back. -/
theorem Orphaned.step (hs : s.Orphaned exposed killable m t) (a : T × Bool) :
    (s.step a).Orphaned exposed killable m t := by
  obtain ⟨u, taken⟩ := a
  simp only [System.step]
  by_cases hended : s.ended u = true
  · rwa [if_pos hended]
  · rw [if_neg hended]
    have hfinish : (s.finish u).Orphaned exposed killable m t := by
      refine ⟨hs.owner, ?_, fun v hv => ?_⟩
      · by_cases htu : t = u
        · exact htu ▸ Function.update_self _ _ _
        · exact (Function.update_of_ne htu _ _).trans hs.ended
      · have hvu : v ≠ u := fun h => by simp [System.finish, h] at hv
        exact hs.others v (by simpa [System.finish, Function.update_of_ne hvu] using hv)
    have hgoto : ∀ {code}, (∀ held, Holds (exposed u) killable (s.code u) held →
        Holds (exposed u) killable code held) → (s.goto u code).Orphaned exposed killable m t :=
      fun hcode => hs.goto fun held hholds hheld => ⟨held, hcode held hholds, hheld⟩
    split
    next hcode => exact hfinish
    next hcode => exact hgoto fun held h => (hcode ▸ h).skip
    next m' rest hcode =>
      split_ifs with hfree
      · have hne : m' ≠ m := fun h => by rw [h, hs.owner] at hfree; cases hfree
        refine (hs.own hne (some u)).goto fun held hholds _ => ⟨some m', ?_, by simpa using hne⟩
        exact (hcode ▸ hholds : Holds (exposed u) killable (.lock m' :: rest) held).lock.2
      · exact hs
    next m' rest hcode =>
      obtain ⟨held, hholds, hheld⟩ := hs.others u (by simpa using hended)
      rw [hcode] at hholds
      have hne : m' ≠ m := fun h => hheld (h ▸ hholds.unlock.1)
      refine (hs.own hne none).goto fun held' hholds' _ => ⟨none, ?_, (Option.some_ne_none m).symm⟩
      exact (hcode ▸ hholds' : Holds (exposed u) killable (.unlock m' :: rest) held').unlock.2
    next c rest hcode =>
      split_ifs
      · exact hfinish
      · exact hgoto fun held h => (hcode ▸ h).point.2
    next v rest hcode =>
      have hkilled : (s.kill v).Orphaned exposed killable m t := ⟨hs.owner, hs.ended, hs.others⟩
      exact hkilled.goto fun held h hheld =>
        ⟨held, (hcode ▸ h : Holds (exposed u) killable (.cancel v :: rest) held).cancel.2, hheld⟩
    next v rest hcode =>
      split_ifs
      · refine hgoto fun held h => ?_
        obtain ⟨rfl, hrest⟩ := (hcode ▸ h : Holds (exposed u) killable (.join v :: rest) held).join
        exact hrest
      · exact hs
    next hcode => exact hgoto fun held h => (hcode ▸ h).seq
    next hcode => exact hgoto fun held h => (hcode ▸ h).choice taken
    next hcode => exact hgoto fun held h => (hcode ▸ h).loop taken

/-- A thread that waits for the mutex waits forever, and so does one that joins it. -/
theorem Orphaned.blocks (hs : s.Orphaned exposed killable m t) {u v : T} {rest : List (Script M T C)}
    (hlive : s.ended u = false) (hcode : s.code u = .lock m :: rest) (hjoin : .join u ∈ s.code v)
    (actions : List (T × Bool)) :
    (run System.step s actions).ended u = false ∧ .join u ∈ (run System.step s actions).code v := by
  induction actions generalizing s with
  | nil => exact ⟨hlive, hjoin⟩
  | cons a actions ih =>
    have hjoin' := (step_join (a := a) hjoin).resolve_right (by simp [hlive])
    by_cases hua : u = a.1
    · have hsame : s.step a = s := by
        simp [System.step, ← hua, hlive, hcode, hs.owner]
      rw [run_cons, hsame]
      exact ih hs hlive hcode hjoin
    · have hlive' := (step_ended_of_ne hua).trans hlive
      exact ih (hs.step a) hlive' ((step_code_of_ne hua).trans hcode) hjoin'

end orphaned

end System

end cancellation
