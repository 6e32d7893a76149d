import Mathlib.Data.List.Nodup
import Mathlib.Logic.Function.Basic

/-! Handles that are given out to owners and released at most once. -/

namespace ownership

/-- The handles given out so far with their owners, and those that have been
released, in order. -/
structure Ledger (O : Type) where
  owner : Nat → O
  next : Nat
  released : List Nat
  given : ∀ h ∈ released, h < next
  once : released.Nodup

namespace Ledger

variable {O : Type}

def empty (o : O) : Ledger O where
  owner _ := o
  next := 0
  released := []
  given _ hh := absurd hh List.not_mem_nil
  once := List.nodup_nil

/-- A handle that its owner has and that has not been released. -/
structure Live (l : Ledger O) (h : Nat) (o : O) : Prop where
  lt_next : h < l.next
  kept : h ∉ l.released
  owner : l.owner h = o

/-- The next handle goes to an owner. -/
def give (l : Ledger O) (o : O) : Ledger O where
  owner := Function.update l.owner l.next o
  next := l.next + 1
  released := l.released
  given h hh := Nat.lt_succ_of_lt (l.given h hh)
  once := l.once

/-- Distinct live handles are released. -/
def release (l : Ledger O) (hs : List Nat) (hdistinct : hs.Nodup) (hlive : ∀ h ∈ hs, ∃ o, l.Live h o) :
    Ledger O where
  owner := l.owner
  next := l.next
  released := l.released ++ hs
  given h hh := by
    rcases List.mem_append.mp hh with hold | hnew
    · exact l.given h hold
    · obtain ⟨o, ho⟩ := hlive h hnew
      exact ho.lt_next
  once := by
    refine List.nodup_append.mpr ⟨l.once, hdistinct, ?_⟩
    rintro a ha b hb rfl
    obtain ⟨o, ho⟩ := hlive a hb
    exact ho.kept ha

variable {l : Ledger O} {h : Nat} {o : O}

theorem Live.unique {o' : O} (hlive : l.Live h o) (hlive' : l.Live h o') : o = o' :=
  hlive.owner.symm.trans hlive'.owner

theorem live_give (l : Ledger O) (o : O) : (l.give o).Live l.next o where
  lt_next := Nat.lt_succ_self _
  kept hh := Nat.lt_irrefl _ (l.given _ hh)
  owner := Function.update_self _ _ _

theorem Live.give (hlive : l.Live h o) (o' : O) : (l.give o').Live h o where
  lt_next := Nat.lt_succ_of_lt hlive.lt_next
  kept := hlive.kept
  owner := (Function.update_of_ne (Nat.ne_of_lt hlive.lt_next) _ _).trans hlive.owner

/-- What is not released stays live. -/
theorem Live.release {hs : List Nat} (hdistinct : hs.Nodup) (hreleased : ∀ h ∈ hs, ∃ o, l.Live h o)
    (hlive : l.Live h o) (hh : h ∉ hs) : (l.release hs hdistinct hreleased).Live h o where
  lt_next := hlive.lt_next
  kept hmem := by
    rcases List.mem_append.mp hmem with hold | hnew
    · exact hlive.kept hold
    · exact hh hnew
  owner := hlive.owner

end Ledger

end ownership
