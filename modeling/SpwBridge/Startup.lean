import SpwBridge.Library.Runs
import SpwBridge.Net.Threads
import SpwBridge.Options
import SpwBridge.Spw.Transmit

open effect runs

namespace spw_bridge

/-- The memory of a `struct spw_state`. The pointer to the routing address is
null until it is stored. -/
structure SpwMem where
  p_address : Option (List UInt8)
  spw_chan_id : Chan → Nat

/-- What transmission makes of it: a packet created with a null address has none. -/
def SpwMem.state (mem : SpwMem) : SpwState := ⟨mem.p_address.getD [], mem.spw_chan_id⟩

/-- What `cfg->spw` points to: nothing, what the value points to that the memory
held before `main` began, or the object of `spw_setup_device`. -/
inductive SpwPtr
  | null
  | stale
  | device
  deriving DecidableEq, Repr

/-- What the memory of `struct bridge_cfg` holds before `main` begins: the array
of the path and the pointer that `bridge_cfg_init` does not set. -/
structure StackFrame where
  path : List UInt8
  path_size : path.length = 256
  spw : SpwPtr
  spw_unset : spw ≠ .device

/-- The next operation of `main` once the options are parsed. -/
inductive MainPc
  | net_start (todo : List net.Thread)
  | calloc
  | select
  | open_channel (chan : Chan)
  | create_address
  | running
  | exited
  deriving DecidableEq, Repr

/-- The next operation of a poll thread. In `spw_link_ready` it tests `cfg->spw`,
then loads the pointer once more for each handle and reads the handle behind it;
`sending` is the read of the routing address in `spw_send_packet_chan`. -/
inductive PollPc
  | absent
  | test
  | load (chan : Chan)
  | deref (ptr : SpwPtr) (chan : Chan)
  | ready
  | sending (ptr : SpwPtr)
  deriving DecidableEq, Repr

/-- The program while it starts up. Nothing but `main` writes to the settings. -/
structure Startup where
  cfg : BridgeCfg
  spw : SpwPtr
  stale : Option SpwMem
  device : SpwMem
  main : MainPc
  poll : SvcId → PollPc

/-- `main` goes on, with what the call that it makes returns; a poll thread goes
on, where it has the choice to another packet or to its next round; what the
unset pointer points to changes. -/
inductive StartupStep
  | main (answer : Nat)
  | poll (id : SvcId) (another : Bool)
  | outside (stale : Option SpwMem)

namespace Startup

/-- The handlers that call `spw_send_packet`. -/
def Transmits (cfg : BridgeCfg) (id : SvcId) : Prop := (id = .data ∨ id = .gresb_tx) ∧ cfg.enable_monitor = false

instance (cfg : BridgeCfg) (id : SvcId) : Decidable (Transmits cfg id) := inferInstanceAs (Decidable (_ ∧ _))

/-- `main` with its options parsed. -/
def initial (frame : StackFrame) (stale : Option SpwMem) (cfg : BridgeCfg) : Startup where
  cfg := cfg
  spw := frame.spw
  stale := stale
  device := ⟨none, fun _ => 0⟩
  main := .net_start (net.net_start cfg)
  poll _ := .absent

/-- The end of the process. -/
def exit (s : Startup) : Startup := { s with main := .exited, poll := fun _ => .absent }

def goto (s : Startup) (id : SvcId) (pc : PollPc) : Startup := { s with poll := Function.update s.poll id pc }

/-- The memory behind a pointer; an access to memory that is not there ends the
process. -/
def mem (s : Startup) : SpwPtr → Option SpwMem
  | .null => none
  | .stale => s.stale
  | .device => some s.device

@[simp] theorem goto_cfg (s : Startup) (id : SvcId) (pc : PollPc) : (s.goto id pc).cfg = s.cfg := rfl

@[simp] theorem goto_spw (s : Startup) (id : SvcId) (pc : PollPc) : (s.goto id pc).spw = s.spw := rfl

@[simp] theorem goto_main (s : Startup) (id : SvcId) (pc : PollPc) : (s.goto id pc).main = s.main := rfl

@[simp] theorem goto_mem (s : Startup) (id : SvcId) (pc : PollPc) (ptr : SpwPtr) :
    (s.goto id pc).mem ptr = s.mem ptr := by
  cases ptr <;> rfl

@[simp] theorem goto_poll (s : Startup) (id : SvcId) (pc : PollPc) : (s.goto id pc).poll id = pc := by
  simp [goto]

@[simp] theorem goto_goto (s : Startup) (id : SvcId) (pc pc' : PollPc) :
    (s.goto id pc).goto id pc' = s.goto id pc' := by
  simp [goto]

/-- The routing address that `spw_setup_device` creates. -/
def address (s : Startup) : List UInt8 := s.cfg.path.take (if s.cfg.enable_monitor then 0 else s.cfg.path_len)

/-- One operation of `main`: `net_start`, then `spw_setup_device`. An answer of
zero is a failed call. The accept threads have nothing to do with the SpW side. A
failed `STAR_createAddress` returns null, which is stored unchecked. -/
def main_step (s : Startup) (answer : Nat) : Startup :=
  match s.main with
  | .net_start [] => { s with main := .calloc }
  | .net_start (.accept_connections _ :: todo) => if answer = 0 then s.exit else { s with main := .net_start todo }
  | .net_start (.poll_socket id :: todo) =>
    if answer = 0 then s.exit else { s.goto id .test with main := .net_start todo }
  | .calloc =>
    if answer = 0 then s.exit else { s with spw := .device, device := ⟨none, fun _ => 0⟩, main := .select }
  | .select =>
    if answer = 0 ∨ s.cfg.enable_monitor ∧ s.cfg.channel2 = s.cfg.channel then s.exit
    else { s with main := .open_channel false }
  | .open_channel chan =>
    if answer = 0 then s.exit
    else { s with
      device := { s.device with spw_chan_id := Function.update s.device.spw_chan_id chan answer }
      main := if s.cfg.enable_monitor ∧ chan = false then .open_channel true else .create_address }
  | .create_address => { s with
      device := { s.device with p_address := if answer = 0 then none else some s.address }
      main := .running }
  | .running => s
  | .exited => s

/-- One operation of a poll thread. -/
def poll_step (s : Startup) (id : SvcId) (another : Bool) : Startup :=
  match s.poll id with
  | .absent => s
  | .test => s.goto id (if s.spw = .null then .test else .load false)
  | .load chan => s.goto id (.deref s.spw chan)
  | .deref ptr chan =>
    match s.mem ptr with
    | none => s.exit
    | some mem =>
      if mem.spw_chan_id chan = 0 then s.goto id .test
      else s.goto id (if s.cfg.enable_monitor ∧ chan = false then .load true else .ready)
  | .ready => s.goto id (if another ∧ Transmits s.cfg id then .sending s.spw else .test)
  | .sending ptr =>
    match s.mem ptr with
    | none => s.exit
    | some _ => s.goto id .ready

def step (s : Startup) : StartupStep → Startup
  | .main answer => s.main_step answer
  | .poll id another => s.poll_step id another
  | .outside stale => { s with stale := stale }

/-- The SpW side is set up: the opened handles and the routing address are
stored. -/
structure SetUp (s : Startup) : Prop where
  spw : s.spw = .device
  channel : s.device.spw_chan_id false ≠ 0
  channel2 : s.cfg.enable_monitor = true → s.device.spw_chan_id true ≠ 0
  p_address : s.device.p_address = some s.address

/-- A step in which `spw_link_ready` returns true is taken with the SpW side set
up. -/
def GuardSound (s : Startup) : StartupStep → Prop
  | .poll id another => ∀ ptr chan, s.poll id = .deref ptr chan → (s.poll_step id another).poll id = .ready → s.SetUp
  | _ => True

/-- A packet that a step sends has the address of the given path. -/
def SendSound (path : List UInt8) (s : Startup) : StartupStep → Prop
  | .poll id _ => ∀ ptr mem, s.poll id = .sending ptr → s.mem ptr = some mem → mem.p_address = some path
  | _ => True

/-- No poll thread reads the last handle that it asks for while the SpW side
looks ready without being so: through the pointer to the object of
`spw_setup_device` not while the address is about to be stored nor after a null
one was, and through the unset pointer not before set-up has ended with an
address, unless a zero is there. -/
def InTime (s : Startup) : StartupStep → Prop
  | .poll id _ => ∀ ptr chan, s.poll id = .deref ptr chan → chan = s.cfg.enable_monitor →
    match ptr with
    | .null => True
    | .stale => s.main = .running ∧ s.device.p_address ≠ none ∨
        ∀ mem, s.stale = some mem → mem.spw_chan_id chan = 0
    | .device => s.main ≠ .create_address ∧ (s.main = .running → s.device.p_address ≠ none)
  | _ => True

/-! ### Without interleaving

The operations of one thread, taken alone, are the functions of the running
bridge. -/

section alone

variable {σ : Type} {s : Startup}

theorem goto_self {id : SvcId} {pc : PollPc} (hpoll : s.poll id = pc) : s.goto id pc = s := by
  rw [goto, ← hpoll, Function.update_eq_self]

theorem step_test (id : SvcId) (another : Bool) : (s.goto id .test).step (.poll id another) =
    s.goto id (if s.spw = .null then .test else .load false) := by
  by_cases hnull : s.spw = .null <;> simp [step, poll_step, hnull]

theorem step_load (id : SvcId) (chan : Chan) (another : Bool) : (s.goto id (.load chan)).step (.poll id another) =
    s.goto id (.deref s.spw chan) := by
  simp only [step, poll_step, goto_poll, goto_goto, goto_spw]

theorem step_deref {ptr : SpwPtr} {mem : SpwMem} (hmem : s.mem ptr = some mem) (id : SvcId) (chan : Chan)
    (another : Bool) : (s.goto id (.deref ptr chan)).step (.poll id another) =
      s.goto id (if mem.spw_chan_id chan = 0 then .test
        else if s.cfg.enable_monitor ∧ chan = false then .load true else .ready) := by
  by_cases hzero : mem.spw_chan_id chan = 0
  · simp [step, poll_step, hmem, hzero]
  · by_cases hfirst : s.cfg.enable_monitor ∧ chan = false
    · obtain ⟨hmonitor, rfl⟩ := hfirst
      simp [step, poll_step, hmem, hzero, hmonitor]
    · simp [step, poll_step, hmem, hzero, hfirst]

/-- The guard of a poll thread. -/
theorem guard_alone {id : SvcId} (hpoll : s.poll id = .test) (hmem : s.spw ≠ .null → ∃ mem, s.mem s.spw = some mem)
    {w : World σ} (hw : w.spw = (s.mem s.spw).map SpwMem.state) :
    ∃ n, run step s (List.replicate (n + 1) (.poll id false)) =
      s.goto id (if spw_link_ready s.cfg w then .ready else .test) := by
  rw [← goto_self hpoll]
  by_cases hnull : s.spw = .null
  · refine ⟨0, ?_⟩
    simp [step_test, spw_link_ready, hw, hnull, mem]
  · obtain ⟨mem, hmem⟩ := hmem hnull
    by_cases hsecond : s.cfg.enable_monitor = true ∧ mem.spw_chan_id false ≠ 0
    · refine ⟨4, ?_⟩
      simp [List.replicate, step_test, step_load, step_deref, hnull, hmem, hsecond, spw_link_ready, hw, SpwMem.state]
    · refine ⟨2, ?_⟩
      by_cases hzero : mem.spw_chan_id false = 0
      · simp [List.replicate, step_test, step_load, step_deref, hnull, hmem, hzero, spw_link_ready, hw, SpwMem.state]
      · have hsingle : s.cfg.enable_monitor = false := by simpa [hzero] using hsecond
        simp [List.replicate, step_test, step_load, step_deref, hnull, hmem, hzero, hsingle, spw_link_ready, hw,
          SpwMem.state]

/-- Device set-up by `main`. -/
theorem set_up_alone {E : Env σ} (hmain : s.main = .calloc) {w after : World σ}
    (hsetup : spw_setup_device E s.cfg w = .ok () after) :
    ∃ answers : List Nat, (run step s (answers.map .main)).main = .running ∧
      after.spw = some (run step s (answers.map .main)).device.state := by
  have hwp : wp (spw_setup_device E s.cfg) (fun _ after => ∃ answers : List Nat,
      (run step s (answers.map .main)).main = .running ∧
        after.spw = some (run step s (answers.map .main)).device.state) (fun _ _ => True) w := by
    simp only [spw_setup_device, wp_bind, wp_exit_unless, wp_modify, wp_ite, wp_throw, wp_open_channel,
      Option.map_some]
    split_ifs with _ _ hsame _ hfirst hmonitor hsecond
    · generalize (E.STAR_openChannel (E.device (E.device (E.malloc w.env).2).2).2 s.cfg.channel).1 = handle at hfirst ⊢
      generalize (E.STAR_openChannel (E.STAR_openChannel _ s.cfg.channel).2 s.cfg.channel2).1 = handle2 at hsecond ⊢
      refine ⟨[1, 1, handle, handle2, 1], ?_⟩
      simp_all [step, main_step, address, SpwMem.state]
    · generalize (E.STAR_openChannel (E.device (E.device (E.malloc w.env).2).2).2 s.cfg.channel).1 = handle at hfirst ⊢
      refine ⟨[1, 1, handle, 1], ?_⟩
      simp_all [step, main_step, address, SpwMem.state]
  exact (wp_ok hsetup).mp hwp

end alone

/-! ### The phases of set-up -/

/-- What `main` has stored when it is about to do an operation. -/
def Stored (s : Startup) : MainPc → Prop
  | .net_start _ | .calloc => s.spw ≠ .device
  | .select | .open_channel false => s.spw = .device ∧ s.device = ⟨none, fun _ => 0⟩
  | .open_channel true => s.cfg.enable_monitor = true ∧ s.spw = .device ∧ s.device.spw_chan_id false ≠ 0 ∧
      s.device.spw_chan_id true = 0 ∧ s.device.p_address = none
  | .create_address => s.spw = .device ∧ s.device.spw_chan_id false ≠ 0 ∧
      (s.cfg.enable_monitor = true → s.device.spw_chan_id true ≠ 0) ∧ s.device.p_address = none
  | .running => s.spw = .device ∧ s.device.spw_chan_id false ≠ 0 ∧
      (s.cfg.enable_monitor = true → s.device.spw_chan_id true ≠ 0) ∧
      (s.device.p_address ≠ none → s.device.p_address = some s.address)
  | .exited => True

/-- Where a poll thread can be: what it holds of the SpW side is there. -/
def Fits (s : Startup) : PollPc → Prop
  | .absent => True
  | .test => s.main ≠ .exited
  | .load chan => s.main ≠ .exited ∧ (chan = true → s.cfg.enable_monitor = true)
  | .deref ptr chan =>
    s.main ≠ .exited ∧ (chan = true → s.cfg.enable_monitor = true) ∧ (ptr = .device → s.spw = .device)
  | .ready => s.main = .running ∧ s.device.p_address ≠ none
  | .sending ptr =>
    s.main = .running ∧ s.device.p_address ≠ none ∧ ptr = .device ∧ s.cfg.enable_monitor = false

structure Consistent (s : Startup) : Prop where
  stored : s.Stored s.main
  poll : ∀ id, s.Fits (s.poll id)

theorem consistent_initial (frame : StackFrame) (stale : Option SpwMem) (cfg : BridgeCfg) :
    (initial frame stale cfg).Consistent :=
  ⟨frame.spw_unset, fun _ => trivial⟩

theorem consistent_exit (s : Startup) : s.exit.Consistent := ⟨trivial, fun _ => trivial⟩

/-- A thread stays where it is while `main` goes on. -/
theorem Fits.advance {s after : Startup} (hcfg : after.cfg = s.cfg) (hspw : s.spw = .device → after.spw = .device)
    (hmain : s.main ≠ .running) (hexited : after.main ≠ .exited) {pc : PollPc} (hfits : s.Fits pc) :
    after.Fits pc := by
  cases pc with
  | absent => trivial
  | test => exact hexited
  | load chan => exact ⟨hexited, hcfg ▸ hfits.2⟩
  | deref ptr chan => exact ⟨hexited, hcfg ▸ hfits.2.1, fun h => hspw (hfits.2.2 h)⟩
  | ready => exact absurd hfits.1 hmain
  | sending ptr => exact absurd hfits.1 hmain

@[simp] theorem goto_setUp {s : Startup} (id : SvcId) (pc : PollPc) : (s.goto id pc).SetUp ↔ s.SetUp :=
  ⟨fun h => ⟨h.spw, h.channel, h.channel2, h.p_address⟩, fun h => ⟨h.spw, h.channel, h.channel2, h.p_address⟩⟩

@[simp] theorem goto_stored {s : Startup} (id : SvcId) (pc : PollPc) (main : MainPc) :
    (s.goto id pc).Stored main ↔ s.Stored main := by
  match main with
  | .net_start _ | .calloc | .select | .open_channel false | .open_channel true | .create_address | .running
  | .exited => exact Iff.rfl

@[simp] theorem goto_fits {s : Startup} (id : SvcId) (pc pc' : PollPc) : (s.goto id pc).Fits pc' ↔ s.Fits pc' := by
  cases pc' <;> exact Iff.rfl

/-- A thread goes on while everything else stays. -/
theorem Consistent.goto {s : Startup} (hs : s.Consistent) (id : SvcId) {pc : PollPc} (hpc : s.Fits pc) :
    (s.goto id pc).Consistent where
  stored := (goto_stored id pc _).mpr hs.stored
  poll other := by
    rw [goto_fits]
    by_cases h : other = id
    · subst h
      simpa [Startup.goto] using hpc
    · simpa [Startup.goto, Function.update_of_ne h] using hs.poll other

/-- `main` only adds to what is stored. -/
theorem Consistent.main_step {s : Startup} (hs : s.Consistent) (answer : Nat) : (s.main_step answer).Consistent := by
  have hstored := hs.stored
  have hadvance : ∀ {after : Startup}, after.poll = s.poll → after.cfg = s.cfg →
      (s.spw = .device → after.spw = .device) → s.main ≠ .running → after.main ≠ .exited →
      after.Stored after.main → after.Consistent := fun hpoll hcfg hspw hmain hexited hafter =>
    ⟨hafter, fun id => (hpoll ▸ hs.poll id).advance hcfg hspw hmain hexited⟩
  unfold Startup.main_step
  split
  next hmain =>
    rw [hmain] at hstored
    exact hadvance rfl rfl (fun h => h) (by simp [hmain]) (by simp) hstored
  next hmain =>
    rw [hmain] at hstored
    split_ifs
    · exact consistent_exit s
    · exact hadvance rfl rfl (fun h => h) (by simp [hmain]) (by simp) hstored
  next id todo hmain =>
    rw [hmain] at hstored
    split_ifs
    · exact consistent_exit s
    · have htest : s.Fits .test := by simp [Fits, hmain]
      have hstarting : (s.goto id .test).main ≠ .running := by simp [Startup.goto, hmain]
      refine ⟨hstored, fun other => ?_⟩
      apply Fits.advance _ _ hstarting _ ((hs.goto id htest).poll other)
      · rfl
      · exact fun h => h
      · simp
  next hmain =>
    split_ifs
    · exact consistent_exit s
    · exact hadvance rfl rfl (fun _ => rfl) (by simp [hmain]) (by simp) ⟨rfl, rfl⟩
  next hmain =>
    rw [hmain] at hstored
    split_ifs
    · exact consistent_exit s
    · exact hadvance rfl rfl (fun h => h) (by simp [hmain]) (by simp) hstored
  next chan hmain =>
    rw [hmain] at hstored
    split_ifs with hanswer hmonitor
    · exact consistent_exit s
    · obtain ⟨hon, rfl⟩ := hmonitor
      obtain ⟨hspw, hdevice⟩ := hstored
      refine hadvance rfl rfl (fun h => h) (by simp [hmain]) (by simp) ?_
      exact ⟨hon, hspw, by simpa using hanswer, by simp [hdevice], by simp [hdevice]⟩
    · refine hadvance rfl rfl (fun h => h) (by simp [hmain]) (by simp) ?_
      cases chan with
      | false =>
        obtain ⟨hspw, hdevice⟩ := hstored
        exact ⟨hspw, by simpa using hanswer, fun hon => absurd ⟨hon, rfl⟩ hmonitor, by simp [hdevice]⟩
      | true =>
        obtain ⟨hon, hspw, hfirst, -, hnone⟩ := hstored
        exact ⟨hspw, by simpa using hfirst, fun _ => by simpa using hanswer, hnone⟩
  next hmain =>
    rw [hmain] at hstored
    obtain ⟨hspw, hfirst, hsecond, -⟩ := hstored
    refine hadvance rfl rfl (fun h => h) (by simp [hmain]) (by simp) ⟨hspw, hfirst, hsecond, fun hstored => ?_⟩
    split_ifs with hanswer
    · exact absurd (if_pos hanswer) hstored
    · rfl
  next hmain => exact hs
  next hmain => exact hs

/-- Set-up has ended with an address. -/
theorem Consistent.setUp {s : Startup} (hs : s.Consistent) (hmain : s.main = .running)
    (haddress : s.device.p_address ≠ none) : s.SetUp := by
  have hstored := hs.stored
  rw [hmain] at hstored
  obtain ⟨hspw, hfirst, hsecond, hnonnull⟩ := hstored
  exact ⟨hspw, hfirst, hsecond, hnonnull haddress⟩

theorem SetUp.address_ne_none {s : Startup} (hset : s.SetUp) : s.device.p_address ≠ none := by
  rw [hset.p_address]
  exact Option.some_ne_none _

theorem Consistent.running {s : Startup} (hs : s.Consistent) (hset : s.SetUp) (hmain : s.main ≠ .exited) :
    s.main = .running := by
  have hstored := hs.stored
  cases h : s.main with
  | net_start todo | calloc =>
    rw [h] at hstored
    exact absurd hset.spw hstored
  | select =>
    rw [h] at hstored
    exact absurd (by rw [hstored.2]) hset.channel
  | open_channel chan =>
    rw [h] at hstored
    cases chan with
    | false => exact absurd (by rw [hstored.2]) hset.channel
    | true => exact absurd hstored.2.2.2.1 (hset.channel2 hstored.1)
  | create_address =>
    rw [h] at hstored
    exact absurd (hset.p_address.symm.trans hstored.2.2.2) nofun
  | running => rfl
  | exited => exact absurd h hmain

/-- When `spw_link_ready` returns true. -/
theorem ready_iff {s : Startup} {id : SvcId} {ptr : SpwPtr} {chan : Chan} (hpoll : s.poll id = .deref ptr chan)
    (hfits : s.Fits (.deref ptr chan)) (another : Bool) :
    (s.poll_step id another).poll id = .ready ↔
      chan = s.cfg.enable_monitor ∧ ∃ mem, s.mem ptr = some mem ∧ mem.spw_chan_id chan ≠ 0 := by
  have hsecond := hfits.2.1
  simp only [poll_step, hpoll]
  cases s.mem ptr with
  | none => simp [exit]
  | some mem =>
    by_cases hzero : mem.spw_chan_id chan = 0
    · simp [hzero, goto]
    · cases chan <;> cases hmonitor : s.cfg.enable_monitor <;> simp_all [goto]

/-- The last handle that the guard asks for is there from the moment on that the
address is next. -/
theorem Consistent.last_handle_iff {s : Startup} (hs : s.Consistent) (hspw : s.spw = .device)
    (hmain : s.main ≠ .exited) :
    s.device.spw_chan_id s.cfg.enable_monitor ≠ 0 ↔ s.main = .create_address ∨ s.main = .running := by
  have hstored := hs.stored
  cases h : s.main with
  | net_start todo | calloc =>
    rw [h] at hstored
    exact absurd hspw hstored
  | select =>
    rw [h] at hstored
    simp [hstored.2]
  | open_channel chan =>
    rw [h] at hstored
    cases chan with
    | false => simp [hstored.2]
    | true => simp [hstored.1, hstored.2.2.2.1]
  | create_address =>
    rw [h] at hstored
    obtain ⟨-, hfirst, hsecond, -⟩ := hstored
    cases hmonitor : s.cfg.enable_monitor with
    | false => simpa using hfirst
    | true => simpa using hsecond hmonitor
  | running =>
    rw [h] at hstored
    obtain ⟨-, hfirst, hsecond, -⟩ := hstored
    cases hmonitor : s.cfg.enable_monitor with
    | false => simpa using hfirst
    | true => simpa using hsecond hmonitor
  | exited => exact absurd h hmain

/-- What the guard has read last decides whether set-up has ended. -/
theorem Consistent.inTime_iff {s : Startup} (hs : s.Consistent) (a : StartupStep) : s.InTime a ↔ s.GuardSound a := by
  cases a with
  | main answer | outside stale => exact Iff.rfl
  | poll id another =>
    refine forall_congr' fun ptr => forall_congr' fun chan => forall_congr' fun hpoll => ?_
    have hfits : s.Fits (.deref ptr chan) := hpoll ▸ hs.poll id
    rw [ready_iff hpoll hfits another]
    obtain ⟨hexited, -, hspw⟩ := hfits
    constructor
    · rintro hintime ⟨rfl, mem, hmem, hnonzero⟩
      have hready := hintime rfl
      cases ptr with
      | null => cases hmem
      | stale =>
        rcases hready with ⟨hrunning, haddress⟩ | hzero
        · exact hs.setUp hrunning haddress
        · exact absurd (hzero mem hmem) hnonzero
      | device =>
        cases hmem
        rcases (hs.last_handle_iff (hspw rfl) hexited).mp hnonzero with hnext | hrunning
        · exact absurd hnext hready.1
        · exact hs.setUp hrunning (hready.2 hrunning)
    · rintro hsound rfl
      cases ptr with
      | null => trivial
      | stale =>
        by_cases hzero : ∀ mem, s.stale = some mem → mem.spw_chan_id s.cfg.enable_monitor = 0
        · exact Or.inr hzero
        · push Not at hzero
          obtain ⟨mem, hmem, hnonzero⟩ := hzero
          have hset := hsound ⟨rfl, mem, hmem, hnonzero⟩
          exact Or.inl ⟨hs.running hset hexited, hset.address_ne_none⟩
      | device =>
        have hset : s.main = .create_address ∨ s.main = .running → s.SetUp := fun hmain =>
          hsound ⟨rfl, s.device, rfl, (hs.last_handle_iff (hspw rfl) hexited).mpr hmain⟩
        refine ⟨fun hnext => ?_, fun hrunning => (hset (Or.inr hrunning)).address_ne_none⟩
        have hrunning := hs.running (hset (Or.inl hnext)) hexited
        exact absurd (hnext.symm.trans hrunning) nofun

theorem Consistent.poll_step {s : Startup} (hs : s.Consistent) {id : SvcId} {another : Bool}
    (hsound : s.GuardSound (.poll id another)) : (s.poll_step id another).Consistent := by
  have hfits := hs.poll id
  unfold Startup.poll_step
  split
  next hpoll => exact hs
  next hpoll =>
    rw [hpoll] at hfits
    apply hs.goto
    split
    · exact hfits
    · exact ⟨hfits, nofun⟩
  next chan hpoll =>
    rw [hpoll] at hfits
    exact hs.goto id ⟨hfits.1, hfits.2, fun h => h⟩
  next ptr chan hpoll =>
    rw [hpoll] at hfits
    split
    next => exact consistent_exit s
    next mem hmem =>
      split_ifs with hzero hfirst
      · exact hs.goto id hfits.1
      · exact hs.goto id ⟨hfits.1, fun _ => hfirst.1⟩
      · have hready : (s.poll_step id another).poll id = .ready := by
          simp [Startup.poll_step, hpoll, hmem, hzero, hfirst, Startup.goto]
        have hset := hsound ptr chan hpoll hready
        exact hs.goto id ⟨hs.running hset hfits.1, hset.address_ne_none⟩
  next hpoll =>
    rw [hpoll] at hfits
    obtain ⟨hrunning, haddress⟩ := hfits
    apply hs.goto
    split_ifs with hanother
    · exact ⟨hrunning, haddress, (hs.setUp hrunning haddress).spw, hanother.2.2⟩
    · exact fun hexited => absurd (hrunning.symm.trans hexited) nofun
  next ptr hpoll =>
    rw [hpoll] at hfits
    split
    next => exact consistent_exit s
    next => exact hs.goto id ⟨hfits.1, hfits.2.1⟩

theorem Consistent.outside {s : Startup} (hs : s.Consistent) (stale : Option SpwMem) :
    Consistent { s with stale := stale } where
  stored := by
    have hstored := hs.stored
    match h : s.main with
    | .net_start _ | .calloc | .select | .open_channel false | .open_channel true | .create_address | .running
    | .exited =>
      rw [h] at hstored
      exact hstored
  poll id := by
    have hfits := hs.poll id
    cases h : s.poll id <;> rw [h] at hfits <;> exact hfits

theorem step_cfg (s : Startup) (a : StartupStep) : (s.step a).cfg = s.cfg := by
  cases a with
  | main answer =>
    simp only [step, main_step]
    split <;> try split_ifs
    all_goals rfl
  | poll id another =>
    simp only [step, poll_step]
    split
    case h_4 =>
      split
      · rfl
      · split_ifs <;> rfl
    case h_6 => split <;> rfl
    all_goals rfl
  | outside stale => rfl

/-- A sending thread sends with the address of set-up. -/
theorem Consistent.sendSound {s : Startup} (hs : s.Consistent) (a : StartupStep) : s.SendSound s.cfg.route a := by
  cases a with
  | main answer | outside stale => trivial
  | poll id another =>
    intro ptr mem hpoll hmem
    have hfits : s.Fits (.sending ptr) := hpoll ▸ hs.poll id
    obtain ⟨hrunning, haddress, rfl, hmonitor⟩ := hfits
    cases hmem
    simpa [address, hmonitor, BridgeCfg.route] using (hs.setUp hrunning haddress).p_address

theorem Consistent.step {s : Startup} (hs : s.Consistent) {a : StartupStep} (hsound : s.GuardSound a) :
    (s.step a).Consistent := by
  cases a with
  | main answer => exact hs.main_step answer
  | poll id another => exact hs.poll_step hsound
  | outside stale => exact hs.outside stale

end Startup

/-- From every content of the memory, with every command line and in every run,
failed calls included: exactly when the guards are read in time, `spw_link_ready`
returns true only with the SpW side set up and every packet carries the
configured path. -/
theorem spw_link_ready_set_up_iff {resolves : List Char → Bool} {frame : StackFrame} (stale : Option SpwMem)
    {opts : List (Char × Option (List Char))} {cfg : BridgeCfg}
    (hparse : parse_options resolves (bridge_cfg_init frame.path) opts = some cfg) (actions : List StartupStep) :
    Along Startup.step (fun s a => s.GuardSound a ∧ s.SendSound (route opts) a) (.initial frame stale cfg) actions ↔
      Along Startup.step Startup.InTime (.initial frame stale cfg) actions := by
  have hroute : cfg.route = route opts := route_eq frame.path_size hparse
  have hinitial := Startup.consistent_initial frame stale cfg
  constructor
  · intro hsound
    refine (hsound.maintains (fun s a hs ha => ?_) hinitial).1
    exact ⟨(hs.inTime_iff a).mpr ha.1, hs.step ha.1⟩
  · intro hintime
    have hstep : ∀ s a, Startup.Consistent s ∧ s.cfg = cfg → s.InTime a →
        (s.GuardSound a ∧ s.SendSound (route opts) a) ∧ (s.step a).Consistent ∧ (s.step a).cfg = cfg := by
      rintro s a ⟨hs, hcfg⟩ ha
      have hsound := (hs.inTime_iff a).mp ha
      have hsend := hs.sendSound a
      rw [hcfg, hroute] at hsend
      exact ⟨⟨hsound, hsend⟩, hs.step hsound, by rw [Startup.step_cfg, hcfg]⟩
    exact (hintime.maintains hstep ⟨hinitial, rfl⟩).1

/-- A memory of zeroes but for the pointer. -/
def zeroFrame (spw : SpwPtr) (hspw : spw ≠ .device) : StackFrame :=
  ⟨List.replicate 256 0, List.length_replicate, spw, hspw⟩

/-- A server on the path of the node 1. -/
def routedCfg : BridgeCfg := opt_path (bridge_cfg_init (List.replicate 256 0)) ['0', '1']

/-- A round of a poll thread that sends a packet. -/
def sendingRound : List StartupStep :=
  [.poll .data false, .poll .data false, .poll .data false, .poll .data true, .poll .data false]

/-- `main` up to the stored handle. -/
def untilHandle : List StartupStep := [.main 1, .main 1, .main 1, .main 1, .main 1, .main 5]

/-- A round once `main` waits. -/
theorem spw_link_ready_set_up_iff_waiting :
    Along Startup.step (fun s a => s.GuardSound a ∧ s.SendSound (route [('n', some ['0', '1'])]) a)
      (.initial (zeroFrame .null nofun) none routedCfg) (untilHandle ++ .main 1 :: sendingRound) := by
  have hparse : parse_options (fun _ => true) (bridge_cfg_init (List.replicate 256 0)) [('n', some ['0', '1'])] =
      some routedCfg := rfl
  apply (spw_link_ready_set_up_iff none hparse _).mpr
  refine ⟨trivial, trivial, trivial, trivial, trivial, trivial, trivial, nofun, nofun, ?_, nofun, nofun, trivial⟩
  intro ptr chan hpoll _
  cases hpoll
  exact ⟨nofun, fun _ => nofun⟩

/-- With the handle stored and the address not, a packet goes out without its
path; where no address could be created it does so with `main` waiting; and the
guard takes an unset pointer for the device. -/
theorem spw_link_ready_early :
    ¬ Along Startup.step Startup.GuardSound (.initial (zeroFrame .null nofun) none routedCfg)
        (untilHandle ++ sendingRound) ∧
      ¬ Along Startup.step (Startup.SendSound [1]) (.initial (zeroFrame .null nofun) none routedCfg)
        (untilHandle ++ sendingRound) ∧
      ¬ Along Startup.step Startup.GuardSound (.initial (zeroFrame .null nofun) none routedCfg)
        (untilHandle ++ .main 0 :: sendingRound) ∧
      ¬ Along Startup.step Startup.GuardSound (.initial (zeroFrame .stale nofun) (some ⟨none, fun _ => 1⟩) routedCfg)
        (.main 1 :: .main 1 :: sendingRound) := by
  refine ⟨?_, ?_, ?_, ?_⟩
  · intro hsound
    have hset := hsound.2.2.2.2.2.2.2.2.1 .device false rfl rfl
    exact absurd hset.p_address nofun
  · intro hsound
    have hsent := hsound.2.2.2.2.2.2.2.2.2.2.1 .device _ rfl rfl
    exact absurd hsent nofun
  · intro hsound
    have hset := hsound.2.2.2.2.2.2.2.2.2.1 .device false rfl rfl
    exact absurd hset.p_address nofun
  · intro hsound
    have hset := hsound.2.2.2.2.1 .stale false rfl rfl
    exact absurd hset.spw nofun

end spw_bridge
