import Mathlib.Data.Finset.Card
import Mathlib.Data.List.Nodup

namespace tables

/-- A table of distinct entries in an array that starts with room for `start` of
them and doubles when it is full. -/
structure Table (α : Type) (start : Nat) where
  entries : List α
  cap : Nat
  nodup : entries.Nodup
  fits : entries.length ≤ cap
  slack : cap ≤ max start (2 * entries.length)

/-- The capacity to ask for when the array is full. -/
def next_cap (start cap : Nat) : Nat := if cap ≠ 0 then cap * 2 else start

namespace Table

variable {α : Type} {start : Nat}

theorem fits_nil : ([] : List α).length ≤ 0 := Nat.le_refl 0

theorem slack_nil (start : Nat) : 0 ≤ max start (2 * ([] : List α).length) := Nat.zero_le _

def empty : Table α start := ⟨[], 0, List.nodup_nil, fits_nil, slack_nil start⟩

/-- Put a new entry behind the others. -/
def append (t : Table α start) (a : α) (cap : Nat) (hfresh : a ∉ t.entries) (hroom : t.entries.length < cap)
    (hslack : cap ≤ max start (2 * (t.entries.length + 1))) : Table α start where
  entries := t.entries ++ [a]
  cap := cap
  nodup := by
    rw [List.nodup_append]
    refine ⟨t.nodup, List.nodup_singleton a, ?_⟩
    intro b hb c hc hbc
    rw [List.mem_singleton] at hc
    exact hfresh (hc ▸ hbc ▸ hb)
  fits := by
    rw [List.length_append, List.length_singleton]
    exact hroom
  slack := by
    rw [List.length_append, List.length_singleton]
    exact hslack

theorem lt_next_cap (hstart : 0 < start) (cap : Nat) : cap < next_cap start cap := by
  unfold next_cap
  split <;> omega

theorem next_cap_le (t : Table α start) (hfull : t.entries.length = t.cap) :
    next_cap start t.cap ≤ max start (2 * (t.entries.length + 1)) := by
  unfold next_cap
  split <;> omega

theorem slack_succ (t : Table α start) : t.cap ≤ max start (2 * (t.entries.length + 1)) := by
  have hslack := t.slack
  omega

section add

variable [DecidableEq α] (hstart : 0 < start) (granted : Bool) (t : Table α start) (a : α)

/-- Add an entry unless it is there. Growing a full array may be refused. -/
def add : Table α start :=
  if hmem : a ∈ t.entries then t
  else if hfull : t.entries.length = t.cap then
    if granted then
      t.append a (next_cap start t.cap) hmem (hfull ▸ lt_next_cap hstart t.entries.length) (t.next_cap_le hfull)
    else t
  else t.append a t.cap hmem (Nat.lt_of_le_of_ne t.fits hfull) t.slack_succ

/-- Entries are neither removed nor changed nor reordered. -/
theorem prefix_add : t.entries <+: (t.add hstart granted a).entries := by
  unfold add
  split
  · exact List.prefix_refl _
  · split
    · split
      · exact List.prefix_append _ _
      · exact List.prefix_refl _
    · exact List.prefix_append _ _

/-- The entry is in the table afterwards, unless the array was full and could not
be grown. -/
theorem mem_add :
    a ∈ (t.add hstart granted a).entries ∨
      granted = false ∧ t.entries.length = t.cap ∧ a ∉ t.entries ∧ t.add hstart granted a = t := by
  have happended : a ∈ t.entries ++ [a] := List.mem_append_right _ (List.mem_singleton_self a)
  unfold add
  split
  case isTrue hmem => exact .inl hmem
  case isFalse hmem =>
    split
    case isFalse => exact .inl happended
    case isTrue hfull =>
      cases granted with
      | true => exact .inl happended
      | false => exact .inr ⟨rfl, hfull, hmem, rfl⟩

end add

/-- An array of entries that can be told apart by numbers below `n` does not grow
past twice that. -/
theorem cap_le {n : Nat} (t : Table α start) (code : α → Nat) (hcode : Function.Injective code)
    (hbound : ∀ a, code a < n) : t.cap ≤ max start (2 * n) := by
  have hnodup : (t.entries.map code).Nodup := t.nodup.map hcode
  have hsub : (t.entries.map code).toFinset ⊆ Finset.range n := by
    intro i hi
    rw [List.mem_toFinset, List.mem_map] at hi
    obtain ⟨a, _, rfl⟩ := hi
    exact Finset.mem_range.mpr (hbound a)
  have hcard := Finset.card_le_card hsub
  rw [List.toFinset_card_of_nodup hnodup, List.length_map, Finset.card_range] at hcard
  have hslack := t.slack
  omega

end Table

end tables
