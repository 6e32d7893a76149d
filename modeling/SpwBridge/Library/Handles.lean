import Mathlib.Data.List.Nodup
import Mathlib.Logic.Function.Basic

/-! Tables of handles whose numbers are used again while the objects behind them
are not. -/

namespace handles

/-- One request to close a number: the object that it was meant for and the one
that it closed. -/
structure Close where
  meant : Option Nat
  closed : Option Nat
  deriving DecidableEq, Repr

/-- The objects that requests have closed. -/
def closed (closes : List Close) : List Nat := closes.filterMap Close.closed

@[simp] theorem closed_append (closes closes' : List Close) :
    closed (closes ++ closes') = closed closes ++ closed closes' :=
  List.filterMap_append

/-- The objects behind the numbers, the next object and the requests so far. No
object is behind two numbers, and none comes back once it is closed. -/
structure Table where
  opened : Nat → Option Nat
  next : Nat
  closes : List Close
  fresh : ∀ {n c}, opened n = some c → c < next
  distinct : ∀ {n n' c}, opened n = some c → opened n' = some c → n = n'
  past : ∀ c ∈ closed closes, c < next
  gone : ∀ {n c}, opened n = some c → c ∉ closed closes
  once : (closed closes).Nodup

namespace Table

def empty : Table where
  opened _ := none
  next := 0
  closes := []
  fresh h := by cases h
  distinct h := by cases h
  past _ h := by cases h
  gone h := by cases h
  once := List.nodup_nil

theorem update_some {opened : Nat → Option Nat} {n n' next c : Nat}
    (h : Function.update opened n (some next) n' = some c) : (n' = n ∧ c = next) ∨ opened n' = some c := by
  by_cases heq : n' = n
  · subst heq
    rw [Function.update_self] at h
    exact Or.inl ⟨rfl, (Option.some.inj h).symm⟩
  · rw [Function.update_of_ne heq] at h
    exact Or.inr h

/-- A new object behind a number. -/
def accept (t : Table) (n : Nat) : Table where
  opened := Function.update t.opened n (some t.next)
  next := t.next + 1
  closes := t.closes
  fresh h := by
    rcases update_some h with ⟨-, rfl⟩ | hold
    · exact Nat.lt_succ_self _
    · exact Nat.lt_succ_of_lt (t.fresh hold)
  distinct h h' := by
    rcases update_some h with ⟨rfl, rfl⟩ | hold <;> rcases update_some h' with ⟨rfl, hnext⟩ | hold'
    · rfl
    · exact absurd (t.fresh hold') (Nat.lt_irrefl _)
    · exact absurd (hnext ▸ t.fresh hold) (Nat.lt_irrefl _)
    · exact t.distinct hold hold'
  past c hc := Nat.lt_succ_of_lt (t.past c hc)
  gone h hc := by
    rcases update_some h with ⟨-, rfl⟩ | hold
    · exact Nat.lt_irrefl _ (t.past _ hc)
    · exact t.gone hold hc
  once := t.once

theorem update_none {opened : Nat → Option Nat} {n n' c : Nat}
    (h : Function.update opened n none n' = some c) : n' ≠ n ∧ opened n' = some c := by
  by_cases heq : n' = n
  · subst heq
    rw [Function.update_self] at h
    cases h
  · rw [Function.update_of_ne heq] at h
    exact ⟨heq, h⟩

theorem mem_closed_close {closes : List Close} {meant c : Option Nat} {x : Nat}
    (h : x ∈ closed (closes ++ [⟨meant, c⟩])) : x ∈ closed closes ∨ c = some x := by
  rw [closed_append, List.mem_append] at h
  refine h.imp_right fun hx => ?_
  cases c with
  | none => cases hx
  | some c => rw [List.mem_singleton.mp hx]

/-- A number is closed on behalf of an object; whatever is behind it goes. -/
def close (t : Table) (n : Nat) (meant : Option Nat) : Table where
  opened := Function.update t.opened n none
  next := t.next
  closes := t.closes ++ [⟨meant, t.opened n⟩]
  fresh h := t.fresh (update_none h).2
  distinct h h' := t.distinct (update_none h).2 (update_none h').2
  past c hc := by
    rcases mem_closed_close hc with hold | hnew
    · exact t.past c hold
    · exact t.fresh hnew
  gone h hc := by
    obtain ⟨hne, hopen⟩ := update_none h
    rcases mem_closed_close hc with hold | hnew
    · exact t.gone hopen hold
    · exact hne (t.distinct hopen hnew)
  once := by
    rw [closed_append]
    cases hopen : t.opened n with
    | none => simpa [closed] using t.once
    | some c =>
      refine List.nodup_append.mpr ⟨t.once, List.nodup_singleton c, ?_⟩
      rintro a ha b hb rfl
      rw [List.mem_singleton.mp hb] at ha
      exact t.gone hopen ha

variable (t : Table) (n : Nat)

@[simp] theorem accept_opened : (t.accept n).opened = Function.update t.opened n (some t.next) := rfl

@[simp] theorem accept_closes : (t.accept n).closes = t.closes := rfl

@[simp] theorem close_opened (meant : Option Nat) :
    (t.close n meant).opened = Function.update t.opened n none := rfl

@[simp] theorem close_closes (meant : Option Nat) :
    (t.close n meant).closes = t.closes ++ [⟨meant, t.opened n⟩] := rfl

end Table

/-- Every request has closed the object that it was meant for, or nothing. -/
def Meant (closes : List Close) : Prop := ∀ request ∈ closes, ∀ c, request.closed = some c → request.meant = some c

theorem meant_append {closes : List Close} {request : Close} (hmeant : Meant closes)
    (hnew : ∀ c, request.closed = some c → request.meant = some c) : Meant (closes ++ [request]) := by
  intro other hother
  rcases List.mem_append.mp hother with hold | hlast
  · exact hmeant other hold
  · rw [List.mem_singleton.mp hlast]
    exact hnew

end handles
