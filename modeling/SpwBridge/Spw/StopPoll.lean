import SpwBridge.Spw.Operations

open runs

namespace spw_bridge.spw

/-- `spw_stop_poll` is past its cancel loop. -/
def MainPc.PastCancel (main : MainPc) : Prop :=
  (∃ chan, main = .join chan) ∨ main = .spw_dispose_ops ∨ main = .done

/-- The operation that a poll thread is about to wait for or waits for. -/
def PollPc.Awaits (pc : PollPc) (op : Nat) : Prop := pc = .submit op ∨ pc = .check op ∨ pc = .wait op

/-- How many operations a poll thread still makes with the flag set. -/
def PollPc.rank : PollPc → Nat
  | .ended => 0
  | .top | .check _ | .woken _ => 1
  | .submit _ | .wait _ | .sink => 2
  | .store _ => 3
  | .create => 4

namespace Transfers

variable {T : Type}

/-- The handshake between `spw_stop_poll` and the poll threads. An operation is in
its slot before its thread can wait for it, the flag is set before the slots are
looked at, and from then on the waits that go on have been cancelled. -/
structure Handshake (s : Transfers T) : Prop where
  slot : ∀ {chan op}, (s.poll chan).Awaits op → s.pus_rx_transfer_op chan = some op
  single : s.enable_monitor = false → s.poll true = .ended
  flag : s.main = .cancel_waits ∨ s.main.PastCancel → s.shutdown = true
  cancelled : s.main.PastCancel → ∀ {chan op}, s.poll chan = .wait op → op ∈ s.cancelled

theorem initial_handshake (enable_monitor : Bool) {main : MainPc}
    (hmain : main = .spw_request_shutdown ∨ main = .set_shutdown) :
    (initial T enable_monitor main).Handshake := by
  have hnot : ¬ (main = .cancel_waits ∨ main.PastCancel) := by
    rcases hmain with rfl | rfl <;> simp [MainPc.PastCancel]
  constructor
  · intro chan op h
    simp only [initial, PollPc.Awaits] at h
    split at h <;> simp at h
  · intro hmonitor
    change enable_monitor = false at hmonitor
    simp [initial, hmonitor]
  · exact fun h => absurd h hnot
  · exact fun h => absurd (.inr h) hnot

/-- The waiting threads have their operations in the slots that the loop runs
over. -/
theorem Handshake.mem_cancel_loop {s : Transfers T} (h : s.Handshake) {chan : Chan} {op : Nat}
    (hwait : s.poll chan = .wait op) : op ∈ s.chans.flatMap fun i => (s.pus_rx_transfer_op i).toList := by
  have hslot := h.slot (.inr (.inr hwait))
  refine List.mem_flatMap.mpr ⟨chan, ?_, by simp [hslot]⟩
  unfold chans
  split
  case isTrue => cases chan <;> simp
  case isFalse hsingle =>
    cases chan with
    | false => simp
    | true =>
      have hended := h.single (by simpa using hsingle)
      rw [hwait] at hended
      cases hended

/-- A poll thread goes on; the slot of its channel may change with it. -/
theorem Handshake.goto {s : Transfers T} (h : s.Handshake) {chan : Chan} {pc : PollPc} {slots : Chan → Option Nat}
    (next : Nat) (disposed : List Nat) (hpoll : s.poll chan ≠ .ended)
    (hothers : ∀ own, own ≠ chan → slots own = s.pus_rx_transfer_op own)
    (hslot : ∀ op, pc.Awaits op → slots chan = some op) (hwait : ∀ op, pc = .wait op → s.shutdown = false) :
    ({ s with next := next, disposed := disposed, pus_rx_transfer_op := slots }.goto chan pc).Handshake where
  slot {own op} hawaits := by
    by_cases heq : own = chan
    · subst heq
      rw [goto_self] at hawaits
      exact hslot op hawaits
    · rw [goto_of_ne heq] at hawaits
      exact (hothers own heq).trans (h.slot hawaits)
  single hmonitor := by
    have hended := h.single hmonitor
    have hne : true ≠ chan := by
      rintro rfl
      exact hpoll hended
    exact (goto_of_ne hne).trans hended
  flag := h.flag
  cancelled hpast {own op} hop := by
    rcases goto_cases hop with ⟨_, hpc⟩ | ⟨_, hold⟩
    · have hclear := hwait op hpc
      rw [h.flag (.inr hpast)] at hclear
      cases hclear
    · exact h.cancelled hpast hold

variable [DecidableEq T] [Fintype T]

/-- The step lemma. -/
theorem Handshake.step {s : Transfers T} (h : s.Handshake) (a : TransferStep T) : (s.step a).Handshake := by
  rcases s.step_moves a with hsame | hmoves
  · rw [hsame]
    exact h
  · generalize s.step a = s' at hmoves
    cases hmoves with
    | exit =>
      constructor
      · intro chan op hawaits
        simp [Transfers.exit, PollPc.Awaits] at hawaits
      · exact fun _ => rfl
      · intro hmain
        simp [Transfers.exit, MainPc.PastCancel] at hmain
      · intro _ chan op hop
        cases hop
    | begin | create | store | submit | wait | clear | dispose | cancel => exact { h with }
    | rx_create hcall hpoll =>
      apply h.goto _ _ (by simp [hpoll]) (fun _ _ => rfl)
      · simp [PollPc.Awaits]
      · simp
    | @rx_store chan op status hcall hpoll =>
      apply h.goto _ _ (by simp [hpoll]) (fun own hne => Function.update_of_ne hne _ _)
      · intro other hawaits
        have hother : op = other := by simpa [PollPc.Awaits] using hawaits
        rw [Function.update_self, hother]
      · simp
    | @goto chan pc status hcall hpoll hstore hsubmit hcheck hwait =>
      apply h.goto _ _ hpoll (fun _ _ => rfl)
      · intro op hawaits
        rcases hawaits with hpc | hpc | hpc
        · exact absurd hpc (hsubmit op)
        · exact h.slot (.inl (hcheck op hpc))
        · exact h.slot (.inr (.inl (hwait op hpc).1))
      · exact fun op hpc => (hwait op hpc).2
    | request hmain =>
      exact { h with
        flag := fun _ => rfl
        cancelled := by simp [MainPc.PastCancel] }
    | net_stop hmain =>
      exact { h with
        flag := by simp [MainPc.PastCancel]
        cancelled := by simp [MainPc.PastCancel] }
    | set_shutdown hmain =>
      exact { h with
        flag := fun _ => rfl
        cancelled := by simp [MainPc.PastCancel] }
    | cancel_waits hmain =>
      exact { h with
        flag := fun _ => h.flag (.inl hmain)
        cancelled := fun _ _ _ hop => List.mem_append_right _ (h.mem_cancel_loop hop) }
    | @join chan status hmain hended =>
      have hpast : s.main.PastCancel := .inl ⟨chan, hmain⟩
      exact { h with
        flag := fun _ => h.flag (.inr hpast)
        cancelled := fun _ => h.cancelled hpast }
    | dispose_ops hmain =>
      have hpast : s.main.PastCancel := .inr (.inl hmain)
      exact { h with
        flag := fun _ => h.flag (.inr hpast)
        cancelled := fun _ => h.cancelled hpast }

/-- With the flag set no thread begins to wait. -/
theorem step_shutdown {s : Transfers T} (hshutdown : s.shutdown = true) (a : TransferStep T) :
    (s.step a).shutdown = true ∧ ∀ chan op, (s.step a).poll chan = .wait op → s.poll chan = .wait op := by
  rcases s.step_moves a with hsame | hmoves
  · rw [hsame]
    exact ⟨hshutdown, fun _ _ h => h⟩
  · generalize s.step a = s' at hmoves
    have hgoto : ∀ {own pc}, (∀ op, pc ≠ .wait op) → ∀ chan op,
        (s.goto own pc).poll chan = .wait op → s.poll chan = .wait op := by
      intro own pc hpc chan op hop
      rcases goto_cases hop with ⟨_, hnew⟩ | ⟨_, hold⟩
      · exact absurd hnew (hpc op)
      · exact hold
    cases hmoves with
    | exit =>
      refine ⟨hshutdown, ?_⟩
      intro chan op hop
      cases hop
    | begin | create | store | submit | wait | clear | dispose | cancel | net_stop | cancel_waits | join
      | dispose_ops => exact ⟨hshutdown, fun _ _ h => h⟩
    | request | set_shutdown => exact ⟨rfl, fun _ _ h => h⟩
    | rx_create | rx_store => exact ⟨hshutdown, hgoto (by simp)⟩
    | goto hcall hpoll hstore hsubmit hcheck hwait =>
      refine ⟨hshutdown, hgoto ?_⟩
      intro op hop
      have hclear := (hwait op hop).2
      rw [hshutdown] at hclear
      cases hclear

theorem reaches_shutdown {s s' : Transfers T} (hshutdown : s.shutdown = true) (hreaches : s.Reaches s') {chan : Chan}
    {op : Nat} (hop : s'.poll chan = .wait op) : s.poll chan = .wait op := by
  obtain ⟨actions, rfl⟩ := hreaches
  induction actions generalizing s with
  | nil => exact hop
  | cons a actions ih =>
    obtain ⟨hnext, hwaits⟩ := step_shutdown hshutdown a
    exact hwaits chan op (ih hnext hop)

/-- Stopping the receive loops loses no wake-up. `spw_stop_poll` begins in any
state that a run reaches, after `spw_request_shutdown` or without it. Once it is
past its cancel loop, a poll thread that waits, then or at any later time, waits
for an operation whose waits have been cancelled. -/
theorem stop_poll_wakes (enable_monitor : Bool) {main : MainPc}
    (hmain : main = .spw_request_shutdown ∨ main = .set_shutdown) {s later : Transfers T}
    (hreached : (initial T enable_monitor main).Reaches s) (hpast : s.main.PastCancel) (hlater : s.Reaches later)
    {chan : Chan} {op : Nat} (hwait : later.poll chan = .wait op) : op ∈ s.cancelled := by
  have hhandshake := hreached.invariant (fun s a h => h.step a) (initial_handshake enable_monitor hmain)
  have hshutdown := hhandshake.flag (.inr hpast)
  exact hhandshake.cancelled hpast (reaches_shutdown hshutdown hlater hwait)

/-- Two receive loops: one waits, the other has stored its operation when the flag
is set and submits it after the cancel loop. -/
def twoLoops : List (TransferStep Unit) :=
  List.replicate 5 (.poll false .COMPLETE) ++ List.replicate 3 (.poll true .COMPLETE) ++
    [.main fun _ => .other, .main fun _ => .other, .poll true .COMPLETE]

theorem stop_poll_wakes_two :
    ∃ s, (initial Unit true .set_shutdown).Reaches s ∧ s.poll true = .check 1 ∧ 0 ∈ s.cancelled := by
  have hreached : (initial Unit true .set_shutdown).Reaches _ := ⟨twoLoops, rfl⟩
  have hcancelled := @stop_poll_wakes _ _ _ true _ (.inr rfl) _ _ hreached (.inl ⟨false, by decide⟩) ⟨[], rfl⟩
    false 0 (by decide)
  exact ⟨_, hreached, by decide, hcancelled⟩

/-! ### The joins return -/

omit [DecidableEq T] [Fintype T] in
/-- With the flag set each operation brings a poll thread closer to its end. -/
theorem rank_poll_step {s : Transfers T} (hshutdown : s.shutdown = true) {chan : Chan}
    (hpoll : s.poll chan ≠ .ended) (status : TransferStatus) :
    ((s.poll_step chan status).poll chan).rank < (s.poll chan).rank := by
  cases hpc : s.poll chan with
  | ended => exact absurd hpc hpoll
  | top | check | woken => simp [poll_step, hpc, goto, hshutdown, PollPc.rank]
  | store | sink => simp [poll_step, hpc, goto, PollPc.rank]
  | create | submit =>
    simp only [poll_step, hpc]
    split <;> simp [goto, Transfers.exit, PollPc.rank]
  | wait =>
    simp only [poll_step, hpc, goto, Function.update_self]
    split <;> simp [PollPc.rank]

/-- Whether a step is an operation of the poll thread itself. -/
def turn (s : Transfers T) (chan : Chan) : TransferStep T → Nat
  | .poll own _ => if own = chan ∧ s.call (.poll chan) = none ∧ s.poll chan ≠ .ended then 1 else 0
  | _ => 0

/-- The operations of the poll thread in a run. -/
def turns (s : Transfers T) (chan : Chan) : List (TransferStep T) → Nat
  | [] => 0
  | a :: actions => s.turn chan a + (s.step a).turns chan actions

omit [DecidableEq T] [Fintype T] in
theorem rank_le_of_poll {s s' : Transfers T} {chan : Chan}
    (hpoll : s'.poll chan = s.poll chan ∨ s'.poll chan = .ended) : (s'.poll chan).rank ≤ (s.poll chan).rank := by
  rcases hpoll with h | h
  · rw [h]
  · rw [h]
    exact Nat.zero_le _

omit [Fintype T] in
theorem send_step_poll (s : Transfers T) (caller : Caller T) (status : TransferStatus) (chan : Chan) :
    (s.send_step caller status).poll chan = s.poll chan ∨ (s.send_step caller status).poll chan = .ended := by
  unfold send_step
  split
  all_goals first | exact .inl rfl | skip
  all_goals
    split
    · exact .inl rfl
    · exact .inr rfl

omit [DecidableEq T] [Fintype T] in
theorem poll_step_other (s : Transfers T) {own chan : Chan} (hne : chan ≠ own) (status : TransferStatus) :
    (s.poll_step own status).poll chan = s.poll chan ∨ (s.poll_step own status).poll chan = .ended := by
  have hgoto : ∀ pc, Function.update s.poll own pc chan = s.poll chan := fun pc => Function.update_of_ne hne _ _
  unfold poll_step
  split
  case h_2 | h_4 =>
    split
    · exact .inl (hgoto _)
    · exact .inr rfl
  case h_9 => exact .inl rfl
  all_goals exact .inl (hgoto _)

theorem rank_step {s : Transfers T} (hshutdown : s.shutdown = true) (chan : Chan) (a : TransferStep T) :
    ((s.step a).poll chan).rank + s.turn chan a ≤ (s.poll chan).rank := by
  cases a with
  | begin caller own =>
    simp only [step]
    split <;> exact Nat.le_refl _
  | send caller status => exact rank_le_of_poll (send_step_poll s caller status chan)
  | cancel t => exact Nat.le_refl _
  | main status =>
    apply rank_le_of_poll
    left
    simp only [step, main_step]
    split <;> try split
    all_goals rfl
  | poll own status =>
    by_cases hcall : s.call (.poll own) = none
    · have hstep : s.step (.poll own status) = s.poll_step own status := if_pos hcall
      rw [hstep]
      by_cases hown : own = chan
      · subst hown
        by_cases hended : s.poll own = .ended
        · simp [turn, poll_step, hended]
        · have hrank := rank_poll_step hshutdown hended status
          simp only [turn, hcall, hended, ne_eq, not_false_eq_true, and_self, ↓reduceIte]
          exact hrank
      · have hturn : s.turn chan (.poll own status) = 0 := if_neg fun h => hown h.1
        rw [hturn]
        exact rank_le_of_poll (s.poll_step_other (Ne.symm hown) status)
    · have hstep : s.step (.poll own status) = s := if_neg hcall
      have hturn : s.turn chan (.poll own status) = 0 := by
        apply if_neg
        rintro ⟨rfl, hnone, _⟩
        exact hcall hnone
      rw [hstep, hturn]
      exact Nat.le_refl _

/-- Once the flag is set a poll thread makes at most four more operations of its
own, however the threads interleave: the joins return when the waits do. -/
theorem turns_le {s : Transfers T} (hshutdown : s.shutdown = true) (chan : Chan) (actions : List (TransferStep T)) :
    s.turns chan actions ≤ 4 := by
  have hrun : ((run step s actions).poll chan).rank + s.turns chan actions ≤ (s.poll chan).rank := by
    induction actions generalizing s with
    | nil => exact Nat.le_refl _
    | cons a actions ih =>
      have hfirst := rank_step hshutdown chan a
      have hrest := ih (step_shutdown hshutdown a).1
      simp only [run_cons, turns]
      omega
  have hrank : (s.poll chan).rank ≤ 4 := by
    cases s.poll chan <;> simp [PollPc.rank]
  omega

end Transfers

end spw_bridge.spw
