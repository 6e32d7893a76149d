import SpwBridge.Spw.Device
import SpwBridge.Startup

open effect resources runs

namespace spw_bridge.spw

variable {σ α : Type}

section rules

variable {fails : DeviceHalt → Device σ → Prop} {d : Device σ}

@[simp] theorem wp_api {post : α → Device σ → Prop} (f : σ → α × σ) :
    wp (api f) post fails d ↔ post (f d.env).1 { d with env := (f d.env).2 } := Iff.rfl

@[simp] theorem wp_track {post : Unit → Device σ → Prop} (a : Act Resource) :
    wp (track a) post fails d ↔ post () { d with acts := d.acts ++ [a] } := Iff.rfl

@[simp] theorem wp_call {post : α → Device σ → Prop} (c : DeviceCall) (f : σ → α × σ) :
    wp (call c f) post fails d ↔ post (f d.env).1 { d with env := (f d.env).2, calls := d.calls ++ [c] } := by
  rw [call, wp_bind]
  exact Iff.rfl

theorem wp_get_state {post : DeviceState → Device σ → Prop} {st : DeviceState} (hst : d.st = some st) :
    wp get_state post fails d ↔ post st { d with acts := d.acts ++ [.use .spw_state] } := by
  obtain ⟨env, cfg, _, acts, calls⟩ := d
  cases hst
  rfl

theorem wp_modify_state {post : Unit → Device σ → Prop} {st : DeviceState} (hst : d.st = some st)
    (f : DeviceState → DeviceState) : wp (modify_state f) post fails d ↔
      post () { d with st := some (f st), acts := d.acts ++ [.use .spw_state] } := by
  rw [modify_state, wp_bind, wp_get_state hst]
  exact Iff.rfl

end rules

/-! ### What is passed to the device -/

/-- The numbers of the channels in use, which are also those of their ports. -/
def ChannelOf (cfg : Settings) (n : Nat) : Prop := n = cfg.channel ∨ cfg.enable_monitor = true ∧ n = cfg.channel2

/-- The numbers of the links whose speed is set. -/
def LinkOf (cfg : Settings) (n : Nat) : Prop := n = cfg.link_id ∨ cfg.enable_monitor = true ∧ n = cfg.channel2

/-- A call is about what the settings say, with their numbers as they are. -/
def DeviceCall.Names (cfg : Settings) : DeviceCall → Prop
  | .STAR_resetDevice _ => cfg.reset_dev = true
  | .CFG_setTransmitSignallingRate _ link rate => LinkOf cfg link.toNat ∧ rate.toNat = cfg.sig_rate
  | .CFG_getTransmitSignallingRate _ link => LinkOf cfg link.toNat
  | .STAR_openChannelToLocalDevice _ channel => ChannelOf cfg channel.toNat
  | .CFG_getPortStatusControl _ port => ChannelOf cfg port.toNat
  | .CFG_setSpaceWireLinkStatus _ port status => ChannelOf cfg port.toNat ∧ status.start = true ∧ status.running = true
  | .CFG_getMeasuredLinkSpeed _ link => LinkOf cfg link.toNat

/-- The channel that a call opens. -/
def DeviceCall.opened : DeviceCall → Option Nat
  | .STAR_openChannelToLocalDevice _ channel => some channel.toNat
  | _ => none

/-! ### What is held -/

/-- Everything that has been done with resources is right, and this is held. -/
def Device.Holds (d : Device σ) (held : Multiset Resource) : Prop := after needs 0 d.acts = some held

/-- Neither the list of the devices nor a name is left. -/
def Clean (held : Multiset Resource) : Prop := .dev_list ∉ held ∧ ∀ p_str, .name p_str ∉ held

/-- Where the program is: its settings, its state, what it holds and the channels
that it has opened; and all its calls name what the settings say. -/
structure Device.At (d : Device σ) (cfg : Settings) (st : Option DeviceState) (held : Multiset Resource)
    (opened : List Nat) : Prop where
  settings : d.cfg = cfg
  state : d.st = st
  held : d.Holds held
  calls : ∀ c ∈ d.calls, c.Names cfg
  opened : d.calls.filterMap DeviceCall.opened = opened

/-- The process exits with nothing left of what is only held for a while. -/
def Exits (cfg : Settings) (halt : DeviceHalt) (d : Device σ) : Prop :=
  (∃ error, halt = .exit error) ∧ (∃ held, d.Holds held ∧ Clean held) ∧ ∀ c ∈ d.calls, c.Names cfg

theorem Device.initial_at (env : σ) (cfg : Settings) : (Device.initial env cfg).At cfg none 0 [] where
  settings := rfl
  state := rfl
  held := rfl
  calls c hc := by cases hc
  opened := rfl

theorem closed_zero : Closed needs 0 := fun _ hmem => absurd hmem (Multiset.notMem_zero _)

namespace Device.At

variable {d : Device σ} {cfg : Settings} {st : DeviceState} {state : Option DeviceState}
  {held held' : Multiset Resource} {opened : List Nat} {fails : DeviceHalt → Device σ → Prop}

theorem closed (h : d.At cfg state held opened) : Closed needs held := after_closed closed_zero h.held

theorem exits (h : d.At cfg state held opened) (hclean : Clean held) (error : SetupError) :
    Exits cfg (.exit error) d :=
  ⟨⟨error, rfl⟩, ⟨held, h.held, hclean⟩, h.calls⟩

theorem wp_api {f : σ → α × σ} {post : α → Device σ → Prop} (h : d.At cfg state held opened)
    (hpost : ∀ a d', d'.At cfg state held opened → post a d') : wp (api f) post fails d :=
  hpost _ _ ⟨h.settings, h.state, h.held, h.calls, h.opened⟩

theorem wp_track {a : Act Resource} {post : Unit → Device σ → Prop} (h : d.At cfg state held opened)
    (ha : act needs held a = some held') (hpost : ∀ d', d'.At cfg state held' opened → post () d') :
    wp (track a) post fails d :=
  hpost _ ⟨h.settings, h.state, (after_snoc h.held a).trans ha, h.calls, h.opened⟩

theorem wp_call {c : DeviceCall} {f : σ → α × σ} {post : α → Device σ → Prop} (h : d.At cfg state held opened)
    (hname : c.Names cfg) (hpost : ∀ a d', d'.At cfg state held (opened ++ c.opened.toList) → post a d') :
    wp (call c f) post fails d := by
  rw [spw.wp_call]
  refine hpost _ _ ⟨h.settings, h.state, h.held, ?_, ?_⟩
  · intro c' hc'
    rcases List.mem_append.mp hc' with hc' | hc'
    · exact h.calls c' hc'
    · rwa [List.mem_singleton.mp hc']
  · change (d.calls ++ [c]).filterMap DeviceCall.opened = _
    rw [List.filterMap_append, h.opened]
    cases hopened : c.opened <;> simp [hopened]

/-- A call that opens no channel. -/
theorem wp_call_of_none {c : DeviceCall} {f : σ → α × σ} {post : α → Device σ → Prop}
    (h : d.At cfg state held opened) (hname : c.Names cfg) (hnone : c.opened = none)
    (hpost : ∀ a d', d'.At cfg state held opened → post a d') : wp (call c f) post fails d := by
  refine h.wp_call hname fun a d' h' => hpost a d' ?_
  rwa [hnone, Option.toList_none, List.append_nil] at h'

theorem wp_get_state {post : DeviceState → Device σ → Prop} (h : d.At cfg (some st) held opened)
    (hheld : .spw_state ∈ held) (hpost : ∀ d', d'.At cfg (some st) held opened → post st d') :
    wp get_state post fails d :=
  (spw.wp_get_state h.state).mpr
    (hpost _ ⟨h.settings, h.state, (after_snoc h.held _).trans (act_use hheld), h.calls, h.opened⟩)

theorem wp_modify_state {f : DeviceState → DeviceState} {post : Unit → Device σ → Prop}
    (h : d.At cfg (some st) held opened) (hheld : .spw_state ∈ held)
    (hpost : ∀ d', d'.At cfg (some (f st)) held opened → post () d') : wp (modify_state f) post fails d :=
  (spw.wp_modify_state h.state f).mpr
    (hpost _ ⟨h.settings, rfl, (after_snoc h.held _).trans (act_use hheld), h.calls, h.opened⟩)

/-- Settings that are written as they are. -/
theorem wp_modify_cfg {f : Settings → Settings} {post : Unit → Device σ → Prop} (h : d.At cfg state held opened)
    (hf : f cfg = cfg) (hpost : ∀ d', d'.At cfg state held opened → post () d') :
    wp (modify fun d => { d with cfg := f d.cfg }) post fails d :=
  hpost _ ⟨(congrArg f h.settings).trans hf, h.state, h.held, h.calls, h.opened⟩

end Device.At

/-! ### Set-up, function by function -/

section specs

variable {A : DeviceApi σ} {d : Device σ} {cfg : Settings} {state : Option DeviceState} {held : Multiset Resource}
  {opened : List Nat}

theorem print_device_spec (h : d.At cfg state (.dev_list ::ₘ held) opened) (dev : Nat) :
    wp (print_device A dev) (fun _ d' => d'.At cfg state (.dev_list ::ₘ held) opened) (Exits cfg) d := by
  have hclosed := h.closed
  rw [print_device, wp_bind]
  refine h.wp_track (act_use (Multiset.mem_cons_self _ _)) fun d h => ?_
  split
  · rw [wp_bind]
    refine h.wp_api fun p_str d h => ?_
    cases p_str with
    | none => exact h
    | some p_str =>
      rw [wp_bind]
      refine h.wp_track (act_acquire (by simp [needs])) fun d h => ?_
      rw [wp_bind]
      refine h.wp_track (act_use (Multiset.mem_cons_self _ _)) fun d h => ?_
      exact h.wp_track (act_release hclosed) fun d h => h
  · exact h

/-- The list is given back however the selection ends. -/
theorem select_device_spec (h : d.At cfg state held opened) (hclean : Clean held) (dev_num : Nat) :
    wp (select_device A dev_num) (fun _ d' => d'.At cfg state held opened) (Exits cfg) d := by
  have hclosed := h.closed
  rw [select_device, wp_bind]
  refine h.wp_api fun dev_list d h => ?_
  cases dev_list with
  | none => exact h.exits hclean _
  | some dev_list =>
    rw [wp_bind]
    refine h.wp_track (act_acquire (by simp [needs])) fun d h => ?_
    rw [wp_bind]
    apply wp_mono_post (wp_forM (fun dev _ d h => print_device_spec h dev) h)
    intro _ d h
    split
    · rw [wp_bind]
      exact h.wp_track (act_release hclosed) fun d h => h.exits hclean _
    · rw [wp_bind]
      refine h.wp_track (act_use (Multiset.mem_cons_self _ _)) fun d h => ?_
      dsimp only
      split
      · rw [wp_bind]
        exact h.wp_track (act_release hclosed) fun d h => h.exits hclean _
      · rw [wp_bind]
        exact h.wp_track (act_release hclosed) fun d h => h

/-- What is selected is the given channel. -/
theorem select_channel_spec (h : d.At cfg state held opened) (hclean : Clean held) (dev channel : Nat) :
    wp (select_channel A dev channel) (fun c d' => (c = channel ∧ channel ≤ 31) ∧ d'.At cfg state held opened)
      (Exits cfg) d := by
  rw [select_channel, wp_bind]
  refine h.wp_api fun channel_mask d h => ?_
  split
  · exact h.exits hclean _
  · split
    · exact h.exits hclean _
    · split
      · exact ⟨⟨rfl, by omega⟩, h⟩
      · exact h.exits hclean _

theorem set_link_speed_spec (h : d.At cfg state held opened) (hclean : Clean held) {link_id : Nat}
    (hlink : LinkOf cfg link_id) (hbyte : link_id < 2 ^ 8) (hrate : cfg.sig_rate < 2 ^ 32) (dev : Nat) :
    wp (set_link_speed A dev link_id cfg.sig_rate) (fun _ d' => d'.At cfg state held opened) (Exits cfg) d := by
  have hnumber : (UInt8.ofNat link_id).toNat = link_id := Nat.mod_eq_of_lt hbyte
  have hspeed : (UInt32.ofNat cfg.sig_rate).toNat = cfg.sig_rate := Nat.mod_eq_of_lt hrate
  have hnamed : LinkOf cfg (UInt8.ofNat link_id).toNat := by rwa [hnumber]
  rw [set_link_speed, wp_bind]
  refine h.wp_call_of_none ⟨hnamed, hspeed⟩ rfl fun failed d h => ?_
  split
  · exact h.exits hclean _
  · exact h.wp_call_of_none hnamed rfl fun _ d h => h

/-- An opened channel is held under the handle that is stored. -/
theorem open_device_channel_spec {st : DeviceState} (h : d.At cfg (some st) held opened) (hclean : Clean held)
    (hheld : .spw_state ∈ held) {number : Nat} (hchannel : ChannelOf cfg number) (hbyte : number < 2 ^ 8)
    (chan : Chan) : wp (open_device_channel A chan number)
      (fun _ d' => ∃ handle, handle ≠ 0 ∧ d'.At cfg
        (some { st with spw_chan_id := Function.update st.spw_chan_id chan handle })
        (.channel handle ::ₘ held) (opened ++ [number])) (Exits cfg) d := by
  have hnumber : (UInt8.ofNat number).toNat = number := Nat.mod_eq_of_lt hbyte
  have hnamed : ChannelOf cfg (UInt8.ofNat number).toNat := by rwa [hnumber]
  rw [open_device_channel, wp_bind]
  refine h.wp_get_state hheld fun d h => ?_
  rw [wp_bind]
  refine h.wp_call hnamed fun handle d h => ?_
  rw [DeviceCall.opened, hnumber, Option.toList_some] at h
  split
  · exact h.exits hclean _
  · rename_i hhandle
    rw [wp_bind]
    refine h.wp_track (act_acquire (by simp [needs])) fun d h => ?_
    exact h.wp_modify_state (Multiset.mem_cons_of_mem hheld) fun d h => ⟨handle, hhandle, h⟩

/-- A poll thread is created with what it works with held. -/
theorem create_poll_spec {st : DeviceState} (h : d.At cfg (some st) held opened) (hclean : Clean held)
    (hheld : .spw_state ∈ held) {enable_monitor : Bool}
    (hneeds : ∀ th, ∀ need ∈ needs (st.poll enable_monitor th), need ∈ held) (chan : Chan) :
    wp (create_poll A enable_monitor chan)
      (fun _ d' => ∃ th, d'.At cfg (some { st with th_spw_poll := Function.update st.th_spw_poll chan th })
        (st.poll enable_monitor th ::ₘ held) opened) (Exits cfg) d := by
  rw [create_poll, wp_bind]
  refine h.wp_get_state hheld fun d h => ?_
  rw [wp_bind]
  refine h.wp_api fun ret d h => ?_
  cases ret with
  | error ret => exact h.exits hclean _
  | ok th =>
    rw [wp_bind]
    refine h.wp_track (act_acquire (hneeds th)) fun d h => ?_
    exact h.wp_modify_state (Multiset.mem_cons_of_mem hheld) fun d h => ⟨th, h⟩

theorem start_link_spec {st : DeviceState} (h : d.At cfg (some st) held opened) (hheld : .spw_state ∈ held)
    {chan link_id : Nat} (hchan : ChannelOf cfg chan) (hchanbyte : chan < 2 ^ 8) (hlink : LinkOf cfg link_id)
    (hlinkbyte : link_id < 2 ^ 8) :
    wp (start_link A chan link_id) (fun _ d' => d'.At cfg (some st) held opened) (Exits cfg) d := by
  have hport : ChannelOf cfg (UInt8.ofNat chan).toNat := by
    rwa [show (UInt8.ofNat chan).toNat = chan from Nat.mod_eq_of_lt hchanbyte]
  have hid : LinkOf cfg (UInt8.ofNat link_id).toNat := by
    rwa [show (UInt8.ofNat link_id).toNat = link_id from Nat.mod_eq_of_lt hlinkbyte]
  rw [start_link, wp_bind]
  refine h.wp_get_state hheld fun d h => ?_
  rw [wp_bind]
  refine h.wp_call_of_none hport rfl fun port_status d h => ?_
  rw [wp_bind]
  refine h.wp_api fun link_status d h => ?_
  rw [wp_bind]
  refine h.wp_call_of_none ⟨hport, rfl, rfl⟩ rfl fun _ d h => ?_
  rw [wp_bind]
  exact h.wp_call_of_none hid rfl fun _ d h => h

end specs

/-! ### Set-up, part by part -/

/-- The state and its lock. -/
def base : Multiset Resource := .pus_op_lock ::ₘ .spw_state ::ₘ 0

namespace DeviceState

variable (st : DeviceState) (enable_monitor : Bool)

def channels : List Resource := (chans enable_monitor).map fun i => .channel (st.spw_chan_id i)

def address : List Resource := st.p_address.toList.map fun p => .address p.1

def polls : List Resource := (chans enable_monitor).map fun i => st.poll enable_monitor (st.th_spw_poll i)

end DeviceState

theorem closed_base : Closed needs base := by
  intro r hr need hneed
  simp only [base, Multiset.mem_cons, Multiset.notMem_zero, or_false] at hr ⊢
  rcases hr with rfl | rfl
  · rw [needs, List.mem_singleton] at hneed
    exact .inr hneed
  · cases hneed

theorem clean_base : Clean base := by
  constructor <;> simp [base]

/-- What is held only for a while is neither a channel nor an address nor a
thread. -/
theorem clean_hold {rs : List Resource} {held : Multiset Resource} (hclean : Clean held)
    (hrs : Resource.dev_list ∉ rs ∧ ∀ p_str, Resource.name p_str ∉ rs) : Clean (hold rs held) := by
  refine ⟨?_, fun p_str => ?_⟩
  · rw [mem_hold, not_or]
    exact ⟨hrs.1, hclean.1⟩
  · rw [mem_hold, not_or]
    exact ⟨hrs.2 p_str, hclean.2 p_str⟩

section parts

variable {A : DeviceApi σ} {d : Device σ} {cfg : Settings} {st : DeviceState} {held : Multiset Resource}

/-- Before a channel is opened. -/
structure DeviceState.Fresh (st : DeviceState) (enable_monitor : Bool) : Prop where
  p_address : st.p_address = none
  spw_chan_id : ∀ i, st.spw_chan_id i = 0
  poll_arg : ∀ i ∈ chans enable_monitor, st.poll_arg i = i

theorem setup_state_spec (h : d.At cfg none 0 []) :
    wp (setup_state A) (fun _ d' => ∃ st : DeviceState, st.Fresh cfg.enable_monitor ∧ d'.At cfg (some st) base [])
      (Exits cfg) d := by
  have hsettings := h.settings
  rw [setup_state, wp_bind, wp_get, wp_bind, hsettings]
  refine h.wp_api fun ok d h => ?_
  split
  · rw [wp_bind]
    refine h.wp_track (act_acquire (by simp [needs])) fun d h => ?_
    rw [wp_bind, wp_modify, wp_bind]
    replace h : ({ d with st := some .zero } : Device σ).At cfg (some .zero) (.spw_state ::ₘ 0) [] :=
      ⟨h.settings, rfl, h.held, h.calls, h.opened⟩
    refine h.wp_track (act_acquire (by simp [needs])) fun d h => ?_
    have hheld : Resource.spw_state ∈ base := by simp [base]
    cases cfg.enable_monitor with
    | false =>
      rw [chans, if_neg (by decide), List.forM_cons, wp_bind]
      refine h.wp_modify_state hheld fun d h => ⟨_, ⟨rfl, fun _ => rfl, ?_⟩, h⟩
      simp [chans]
    | true =>
      rw [chans, if_pos rfl, List.forM_cons, wp_bind]
      refine h.wp_modify_state hheld fun d h => ?_
      rw [List.forM_cons, wp_bind]
      refine h.wp_modify_state hheld fun d h => ⟨_, ⟨rfl, fun _ => rfl, ?_⟩, h⟩
      simp [chans, Function.update]
  · exact h.exits (by simp [Clean]) _

theorem setup_dev_id_spec (h : d.At cfg (some st) base []) :
    wp (setup_dev_id A) (fun dev d' => d'.At cfg (some { st with dev_id := dev }) base []) (Exits cfg) d := by
  have hsettings := h.settings
  have hheld : Resource.spw_state ∈ base := by simp [base]
  rw [setup_dev_id, wp_bind, wp_get, wp_bind, hsettings]
  apply wp_mono_post (select_device_spec h clean_base cfg.dev_num)
  intro dev d h
  rw [wp_bind]
  refine h.wp_modify_state hheld fun d h => ?_
  dsimp only
  split
  · rename_i hreset
    rw [wp_bind]
    exact h.wp_call_of_none hreset rfl fun _ d h => h
  · exact h

/-- The channels that set-up goes on with: valid ones, in monitor mode different. -/
structure ChannelsFit (cfg : Settings) : Prop where
  channel : cfg.channel ≤ 31
  channel2 : cfg.enable_monitor = true → cfg.channel2 ≤ 31 ∧ cfg.channel2 ≠ cfg.channel

theorem setup_channels_spec (h : d.At cfg (some st) held []) (hclean : Clean held) (dev : Nat) :
    wp (setup_channels A dev) (fun _ d' => ChannelsFit cfg ∧ d'.At cfg (some st) held []) (Exits cfg) d := by
  have hsettings := h.settings
  rw [setup_channels, wp_bind, wp_get, wp_bind, hsettings]
  apply wp_mono_post (select_channel_spec h hclean dev cfg.channel)
  rintro channel d ⟨⟨rfl, hchannel⟩, h⟩
  rw [wp_bind]
  refine h.wp_modify_cfg (f := fun settings => { settings with channel := cfg.channel }) rfl fun d h => ?_
  split
  · rename_i hmonitor
    split
    · exact h.exits hclean _
    · rename_i hne
      rw [wp_bind]
      apply wp_mono_post (select_channel_spec h hclean dev cfg.channel2)
      rintro channel2 d ⟨⟨rfl, hchannel2⟩, h⟩
      exact h.wp_modify_cfg (f := fun settings => { settings with channel2 := cfg.channel2 }) rfl fun d h =>
        ⟨⟨hchannel, fun _ => ⟨hchannel2, hne⟩⟩, h⟩
  · rename_i hsingle
    exact ⟨⟨hchannel, fun hmonitor => absurd hmonitor hsingle⟩, h⟩

/-- The numbers of the links fit a byte. -/
theorem ChannelsFit.link_id (hfit : ChannelsFit cfg) (hvalid : cfg.Valid) : cfg.link_id < 2 ^ 8 := by
  have hchannel := hfit.channel
  rcases hvalid.link_id with h | h <;> omega

theorem setup_link_speeds_spec (h : d.At cfg (some st) held []) (hclean : Clean held) (hvalid : cfg.Valid)
    (hfit : ChannelsFit cfg) (dev : Nat) :
    wp (setup_link_speeds A dev) (fun _ d' => d'.At cfg (some st) held []) (Exits cfg) d := by
  have hsettings := h.settings
  have hrate : cfg.sig_rate < 2 ^ 32 := by
    have := hvalid.sig_rate
    omega
  rw [setup_link_speeds, wp_bind, wp_get, wp_bind, hsettings]
  apply wp_mono_post (set_link_speed_spec h hclean (.inl rfl) (hfit.link_id hvalid) hrate dev)
  intro _ d h
  split
  · rename_i hmonitor
    have hbyte : cfg.channel2 < 2 ^ 8 := by
      have := (hfit.channel2 hmonitor).1
      omega
    exact set_link_speed_spec h hclean (.inr ⟨hmonitor, rfl⟩) hbyte hrate dev
  · exact h

/-- The numbers of the channels, in the order of their slots. -/
def channel_numbers (cfg : Settings) : List Nat :=
  if cfg.enable_monitor then [cfg.channel, cfg.channel2] else [cfg.channel]

/-- With the channels open. -/
structure DeviceState.Opened (st : DeviceState) (enable_monitor : Bool) : Prop where
  p_address : st.p_address = none
  spw_chan_id : ∀ i ∈ chans enable_monitor, st.spw_chan_id i ≠ 0
  unused : ∀ i, i ∉ chans enable_monitor → st.spw_chan_id i = 0
  poll_arg : ∀ i ∈ chans enable_monitor, st.poll_arg i = i

theorem open_channels_spec (h : d.At cfg (some st) base []) (hfresh : st.Fresh cfg.enable_monitor)
    (hfit : ChannelsFit cfg) :
    wp (open_channels A) (fun _ d' => ∃ st : DeviceState, st.Opened cfg.enable_monitor ∧
      d'.At cfg (some st) (hold (st.channels cfg.enable_monitor) base) (channel_numbers cfg)) (Exits cfg) d := by
  have hsettings := h.settings
  have hheld : Resource.spw_state ∈ base := by simp [base]
  have hbyte : cfg.channel < 2 ^ 8 := by
    have := hfit.channel
    omega
  rw [open_channels, wp_bind, wp_get, wp_bind, hsettings]
  apply wp_mono_post (open_device_channel_spec h clean_base hheld (.inl rfl) hbyte false)
  rintro _ d ⟨handle, hhandle, h⟩
  cases hmonitor : cfg.enable_monitor with
  | false =>
    rw [hmonitor] at hfresh
    rw [if_neg (by decide)]
    refine ⟨{ st with spw_chan_id := Function.update st.spw_chan_id false handle },
      ⟨hfresh.p_address, ?_, ?_, hfresh.poll_arg⟩, ?_⟩
    · simp [chans, hhandle]
    · simp [chans, hfresh.spw_chan_id]
    · simpa [channel_numbers, hmonitor, DeviceState.channels, chans, hold] using h
  | true =>
    rw [hmonitor] at hfresh
    obtain ⟨hchannel2, _⟩ := hfit.channel2 hmonitor
    have hclean : Clean (hold [.channel handle] base) := clean_hold clean_base (by simp)
    rw [if_pos rfl]
    apply wp_mono_post (open_device_channel_spec h hclean (Multiset.mem_cons_of_mem hheld) (.inr ⟨hmonitor, rfl⟩)
      (by omega) true)
    rintro _ d ⟨handle2, hhandle2, h⟩
    refine ⟨{ st with
        spw_chan_id := Function.update (Function.update st.spw_chan_id false handle) true handle2 },
      ⟨hfresh.p_address, ?_, ?_, hfresh.poll_arg⟩, ?_⟩
    · simp [chans, hhandle, hhandle2]
    · simp [chans]
    · rw [Multiset.cons_swap] at h
      simpa [channel_numbers, hmonitor, DeviceState.channels, chans, hold] using h

/-- With the routing address, which needs no handle of its own, as the program
goes on. -/
structure DeviceState.Ready (st : DeviceState) (cfg : Settings) : Prop where
  p_address : ∀ p ∈ st.p_address, p.2 = address_bytes cfg
  spw_chan_id : ∀ i ∈ chans cfg.enable_monitor, st.spw_chan_id i ≠ 0
  unused : ∀ i, i ∉ chans cfg.enable_monitor → st.spw_chan_id i = 0
  poll_arg : ∀ i ∈ chans cfg.enable_monitor, st.poll_arg i = i

/-- What is held before the poll threads are created. -/
def DeviceState.opened (st : DeviceState) (enable_monitor : Bool) : Multiset Resource :=
  hold st.address (hold (st.channels enable_monitor) base)

theorem create_address_spec {opened : List Nat}
    (h : d.At cfg (some st) (hold (st.channels cfg.enable_monitor) base) opened)
    (hopened : st.Opened cfg.enable_monitor) :
    wp (create_address A) (fun _ d' => ∃ st : DeviceState, st.Ready cfg ∧
      d'.At cfg (some st) (st.opened cfg.enable_monitor) opened) (Exits cfg) d := by
  have hsettings := h.settings
  have hheld : Resource.spw_state ∈ hold (st.channels cfg.enable_monitor) base :=
    mem_hold.mpr (.inr (by simp [base]))
  rw [create_address, wp_bind, wp_get, wp_bind, hsettings]
  refine h.wp_api fun p_address d h => ?_
  cases p_address with
  | none =>
    exact h.wp_modify_state hheld fun d h => ⟨{ st with p_address := none },
      ⟨by simp, hopened.spw_chan_id, hopened.unused, hopened.poll_arg⟩, h⟩
  | some p =>
    rw [wp_bind]
    refine h.wp_track (act_acquire (by simp [needs])) fun d h => ?_
    exact h.wp_modify_state (Multiset.mem_cons_of_mem hheld) fun d h =>
      ⟨{ st with p_address := some (p, address_bytes cfg) },
        ⟨by simp, hopened.spw_chan_id, hopened.unused, hopened.poll_arg⟩, h⟩

@[simp] theorem DeviceState.opened_threads (st : DeviceState) (enable_monitor : Bool) (th : Chan → Nat) :
    ({ st with th_spw_poll := th } : DeviceState).opened enable_monitor = st.opened enable_monitor := rfl

/-- What a poll thread works with is held. -/
theorem DeviceState.needs_poll (st : DeviceState) (enable_monitor : Bool) (th : Nat) :
    ∀ need ∈ needs (st.poll enable_monitor th), need ∈ st.opened enable_monitor := by
  intro need hneed
  simp only [poll, needs, List.mem_cons, List.mem_append] at hneed
  simp only [opened, mem_hold, channels, address, base, Multiset.mem_cons]
  rcases hneed with rfl | rfl | hneed | hneed
  · simp
  · simp
  · right
    left
    simpa using hneed
  · left
    simpa using hneed

theorem DeviceState.clean_opened (st : DeviceState) (enable_monitor : Bool) : Clean (st.opened enable_monitor) :=
  clean_hold (clean_hold clean_base (by simp [channels])) (by simp [address])

/-- The program as set-up leaves it. -/
def Device.Running (d : Device σ) (cfg : Settings) (st : DeviceState) : Prop :=
  st.Ready cfg ∧ d.At cfg (some st) (hold (st.polls cfg.enable_monitor) (st.opened cfg.enable_monitor))
    (channel_numbers cfg)

theorem DeviceState.spw_state_opened (st : DeviceState) (enable_monitor : Bool) :
    .spw_state ∈ st.opened enable_monitor :=
  mem_hold.mpr (.inr (mem_hold.mpr (.inr (by simp [base]))))

theorem create_polls_spec (h : d.At cfg (some st) (st.opened cfg.enable_monitor) (channel_numbers cfg))
    (hready : st.Ready cfg) :
    wp (create_polls A) (fun _ d' => ∃ st, d'.Running cfg st) (Exits cfg) d := by
  have hsettings := h.settings
  have hheld := st.spw_state_opened cfg.enable_monitor
  have hneeds := st.needs_poll cfg.enable_monitor
  have hclean := st.clean_opened cfg.enable_monitor
  rw [create_polls, wp_bind, wp_get, hsettings]
  cases hmonitor : cfg.enable_monitor with
  | false =>
    rw [hmonitor] at h hheld hneeds hclean
    rw [chans, if_neg (by decide), List.forM_cons, wp_bind]
    apply wp_mono_post (create_poll_spec h hclean hheld hneeds false)
    rintro _ d ⟨th, h⟩
    refine ⟨{ st with th_spw_poll := Function.update st.th_spw_poll false th },
      ⟨hready.p_address, hready.spw_chan_id, hready.unused, hready.poll_arg⟩, ?_⟩
    simpa [hmonitor, DeviceState.polls, chans, hold, DeviceState.poll] using h
  | true =>
    rw [hmonitor] at h hheld hneeds hclean
    rw [chans, if_pos rfl, List.forM_cons, wp_bind]
    apply wp_mono_post (create_poll_spec h hclean hheld hneeds false)
    rintro _ d ⟨th, h⟩
    have hclean' : Clean (hold [st.poll true th] (st.opened true)) := clean_hold hclean (by simp [DeviceState.poll])
    rw [List.forM_cons, wp_bind]
    apply wp_mono_post (create_poll_spec h hclean' (Multiset.mem_cons_of_mem hheld)
      (fun th2 need hneed => Multiset.mem_cons_of_mem (hneeds th2 need hneed)) true)
    rintro _ d ⟨th2, h⟩
    refine ⟨{ st with th_spw_poll := Function.update (Function.update st.th_spw_poll false th) true th2 },
      ⟨hready.p_address, hready.spw_chan_id, hready.unused, hready.poll_arg⟩, ?_⟩
    rw [Multiset.cons_swap] at h
    simpa [hmonitor, DeviceState.polls, chans, hold, DeviceState.poll] using h

/-- Set-up either leaves the program running or ends the process. -/
theorem spw_setup_device_spec (h : d.At cfg none 0 []) (hvalid : cfg.Valid) :
    wp (spw_setup_device A) (fun _ d' => ChannelsFit cfg ∧ ∃ st, d'.Running cfg st) (Exits cfg) d := by
  rw [spw_setup_device, wp_bind]
  apply wp_mono_post (setup_state_spec h)
  rintro _ d ⟨st, hfresh, h⟩
  rw [wp_bind]
  apply wp_mono_post (setup_dev_id_spec h)
  intro dev d h
  rw [wp_bind]
  apply wp_mono_post (setup_channels_spec h clean_base dev)
  rintro _ d ⟨hfit, h⟩
  rw [wp_bind]
  apply wp_mono_post (setup_link_speeds_spec h clean_base hvalid hfit dev)
  intro _ d h
  rw [wp_bind]
  apply wp_mono_post (open_channels_spec h ⟨hfresh.p_address, hfresh.spw_chan_id, hfresh.poll_arg⟩ hfit)
  rintro _ d ⟨st, hopened, h⟩
  rw [wp_bind]
  apply wp_mono_post (create_address_spec h hopened)
  rintro _ d ⟨st, hready, h⟩
  exact wp_mono_post (create_polls_spec h hready) fun _ d h => ⟨hfit, h⟩

theorem spw_start_link_spec (h : d.Running cfg st) (hvalid : cfg.Valid) (hfit : ChannelsFit cfg) :
    wp (spw_start_link A) (fun _ d' => d'.Running cfg st) (Exits cfg) d := by
  obtain ⟨hready, h⟩ := h
  have hsettings := h.settings
  have hheld : Resource.spw_state ∈ hold (st.polls cfg.enable_monitor) (st.opened cfg.enable_monitor) :=
    mem_hold.mpr (.inr (st.spw_state_opened _))
  have hbyte : cfg.channel < 2 ^ 8 := by
    have := hfit.channel
    omega
  rw [spw_start_link, wp_bind, wp_get, wp_bind, hsettings]
  apply wp_mono_post (start_link_spec h hheld (.inl rfl) hbyte (.inl rfl) (hfit.link_id hvalid))
  intro _ d h
  split
  · rename_i hmonitor
    have hbyte2 : cfg.channel2 < 2 ^ 8 := by
      have := (hfit.channel2 hmonitor).1
      omega
    apply wp_mono_post (start_link_spec h hheld (.inr ⟨hmonitor, rfl⟩) hbyte2 (.inr ⟨hmonitor, rfl⟩) hbyte2)
    exact fun _ d h => ⟨hready, h⟩
  · exact ⟨hready, h⟩

/-! ### Release -/

theorem closed_opened (st : DeviceState) (enable_monitor : Bool) : Closed needs (st.opened enable_monitor) := by
  apply closed_hold (closed_hold closed_base ?_)
  · intro r hr
    obtain ⟨p, _, rfl⟩ := List.mem_map.mp hr
    simp [needs]
  · intro r hr
    obtain ⟨i, _, rfl⟩ := List.mem_map.mp hr
    simp [needs]

/-- The threads are joined before anything that they work with is released. -/
theorem spw_stop_poll_spec {fails : DeviceHalt → Device σ → Prop} (h : d.Running cfg st) :
    wp spw_stop_poll (fun _ d' => ∃ st : DeviceState, st.Ready cfg ∧
      d'.At cfg (some st) (st.opened cfg.enable_monitor) (channel_numbers cfg)) fails d := by
  obtain ⟨hready, h⟩ := h
  have hsettings := h.settings
  have hclosed := closed_opened st cfg.enable_monitor
  have hneeds := st.needs_poll cfg.enable_monitor
  have hstate : Resource.spw_state ∈ st.opened cfg.enable_monitor := st.spw_state_opened _
  have hlock : Resource.pus_op_lock ∈ hold (st.polls cfg.enable_monitor) (st.opened cfg.enable_monitor) :=
    mem_hold.mpr (.inr (mem_hold.mpr (.inr (mem_hold.mpr (.inr (by simp [base]))))))
  rw [spw_stop_poll, wp_bind, wp_get, wp_bind]
  refine h.wp_modify_state (mem_hold.mpr (.inr hstate)) fun d h => ?_
  rw [wp_bind]
  refine h.wp_track (act_use hlock) fun d h => ?_
  rw [hsettings]
  refine wp_mono_post ?_ fun _ d h => ⟨{ st with shutdown := true },
    ⟨hready.p_address, hready.spw_chan_id, hready.unused, hready.poll_arg⟩, h⟩
  cases hmonitor : cfg.enable_monitor with
  | false =>
    rw [hmonitor] at h hclosed hstate
    rw [chans, if_neg (by decide), List.forM_cons, wp_bind, wp_bind]
    refine h.wp_get_state (Multiset.mem_cons_of_mem hstate) fun d h => ?_
    exact h.wp_track (act_release hclosed) fun d h => h
  | true =>
    rw [hmonitor] at h hclosed hneeds hstate
    have hclosed' : Closed needs (hold [st.poll true (st.th_spw_poll true)] (st.opened true)) :=
      closed_hold hclosed (by simpa using hneeds (st.th_spw_poll true))
    rw [chans, if_pos rfl, List.forM_cons, wp_bind, wp_bind]
    refine h.wp_get_state (Multiset.mem_cons_of_mem (Multiset.mem_cons_of_mem hstate)) fun d h => ?_
    refine h.wp_track (act_release hclosed') fun d h => ?_
    rw [List.forM_cons, wp_bind, wp_bind]
    refine h.wp_get_state (Multiset.mem_cons_of_mem hstate) fun d h => ?_
    exact h.wp_track (act_release hclosed) fun d h => h

theorem closed_channels (st : DeviceState) (enable_monitor : Bool) :
    Closed needs (hold (st.channels enable_monitor) base) := by
  apply closed_hold closed_base
  intro r hr
  obtain ⟨i, _, rfl⟩ := List.mem_map.mp hr
  simp [needs]

theorem destroy_address_spec {fails : DeviceHalt → Device σ → Prop} {opened : List Nat}
    (h : d.At cfg (some st) (st.opened cfg.enable_monitor) opened) :
    wp (destroy_address st) (fun _ d' => d'.At cfg (some st) (hold (st.channels cfg.enable_monitor) base) opened)
      fails d := by
  have hclosed := closed_channels st cfg.enable_monitor
  unfold destroy_address
  cases haddress : st.p_address with
  | none => simpa [DeviceState.opened, DeviceState.address, haddress, hold] using h
  | some p =>
    have h' : d.At cfg (some st) (.address p.1 ::ₘ hold (st.channels cfg.enable_monitor) base) opened := by
      simpa [DeviceState.opened, DeviceState.address, haddress, hold] using h
    exact h'.wp_track (act_release hclosed) fun d h => h

theorem close_channels_spec {fails : DeviceHalt → Device σ → Prop} {opened : List Nat}
    (h : d.At cfg (some st) (hold (st.channels cfg.enable_monitor) base) opened) (hready : st.Ready cfg) :
    wp (close_channels cfg.enable_monitor st) (fun _ d' => d'.At cfg (some st) base opened) fails d := by
  have hids := hready.spw_chan_id
  cases hmonitor : cfg.enable_monitor with
  | false =>
    rw [hmonitor] at h hids
    rw [close_channels, chans, if_neg (by decide), List.forM_cons, wp_bind, if_pos (hids false (by simp [chans]))]
    exact h.wp_track (act_release closed_base) fun d h => h
  | true =>
    rw [hmonitor] at h hids
    have hclosed : Closed needs (hold [Resource.channel (st.spw_chan_id true)] base) :=
      closed_hold closed_base (by simp [needs])
    rw [close_channels, chans, if_pos rfl, List.forM_cons, wp_bind, if_pos (hids false (by simp [chans]))]
    refine h.wp_track (act_release hclosed) fun d h => ?_
    rw [List.forM_cons, wp_bind, if_pos (hids true (by simp [chans]))]
    exact h.wp_track (act_release closed_base) fun d h => h

/-- The lock and the state go last. -/
theorem spw_release_spec {fails : DeviceHalt → Device σ → Prop} {opened : List Nat}
    (h : d.At cfg (some st) (st.opened cfg.enable_monitor) opened) (hready : st.Ready cfg) :
    wp spw_release (fun _ d' => d'.At cfg none 0 opened) fails d := by
  have hsettings := h.settings
  rw [spw_release, wp_bind, wp_get, wp_bind, hsettings]
  refine h.wp_get_state (st.spw_state_opened _) fun d h => ?_
  rw [wp_bind]
  apply wp_mono_post (destroy_address_spec h)
  intro _ d h
  rw [wp_bind]
  apply wp_mono_post (close_channels_spec h hready)
  intro _ d h
  rw [wp_bind]
  refine h.wp_track (act_release (by simp [needs])) fun d h => ?_
  rw [wp_bind]
  refine h.wp_track (act_release (by simp)) fun d h => ?_
  exact ⟨h.settings, rfl, h.held, h.calls, h.opened⟩

end parts

/-- Of every prefix of what has been done each act is right, and nothing is held
without what it needs. -/
def Sound (acts : List (Act Resource)) : Prop :=
  ∀ before, before <+: acts → ∃ held, after needs 0 before = some held ∧ Closed needs held

theorem Device.Holds.sound {d : Device σ} {held : Multiset Resource} (h : d.Holds held) : Sound d.acts := by
  intro before hprefix
  obtain ⟨mid, hmid⟩ := after_prefix hprefix h
  exact ⟨mid, hmid, after_closed closed_zero hmid⟩

/-- From the start to the end of the SpW side nothing is used or released that is
not held, and nothing is held without what it needs: no lock, channel or address
is gone while a poll thread runs. A program that gets to its end has released
everything as often as it has acquired it, and one that exits has done so for the
list of the devices and the names in it. -/
theorem device_lifetime_sound (A : DeviceApi σ) (env : σ) {getaddrinfo : List Char → Option (List (Option UInt32))}
    {path : List UInt8} (hsize : path.length = 256) {opts : List Opt} {cfg : Settings}
    (hparse : (settings_init path).parse_options getaddrinfo opts = some cfg) :
    wp (device_lifetime A)
      (fun _ d => d.st = none ∧ Sound d.acts ∧ ∀ r, d.acts.count (.release r) = d.acts.count (.acquire r))
      (fun halt d => (∃ error, halt = .exit error) ∧ Sound d.acts ∧
        d.acts.count (.release .dev_list) = d.acts.count (.acquire .dev_list) ∧
        ∀ p_str, d.acts.count (.release (.name p_str)) = d.acts.count (.acquire (.name p_str)))
      (.initial env cfg) := by
  have hvalid := Settings.parse_options_valid (Settings.settings_init_valid hsize) hparse
  have hrun : wp (device_lifetime A) (fun _ d => d.At cfg none 0 (channel_numbers cfg)) (Exits cfg)
      (.initial env cfg) := by
    rw [device_lifetime, wp_bind]
    apply wp_mono_post (spw_setup_device_spec (Device.initial_at env cfg) hvalid)
    rintro _ d ⟨hfit, st, h⟩
    rw [wp_bind]
    apply wp_mono_post (spw_start_link_spec h hvalid hfit)
    rintro _ d ⟨hready, h⟩
    rw [wp_bind]
    refine h.wp_modify_state (mem_hold.mpr (.inr (st.spw_state_opened _))) fun d h => ?_
    have hrunning : d.Running cfg { st with shutdown := true } :=
      ⟨⟨hready.p_address, hready.spw_chan_id, hready.unused, hready.poll_arg⟩, h⟩
    rw [wp_bind]
    apply wp_mono_post (spw_stop_poll_spec hrunning)
    rintro _ d ⟨st, hready, h⟩
    rw [wp_bind, spw_dispose_ops, wp_bind]
    refine h.wp_get_state (st.spw_state_opened _) fun d h => ?_
    have hlock : Resource.pus_op_lock ∈ st.opened cfg.enable_monitor :=
      mem_hold.mpr (.inr (mem_hold.mpr (.inr (by simp [base]))))
    refine h.wp_track (act_use hlock) fun d h => ?_
    exact spw_release_spec h hready
  apply wp_mono hrun
  · intro _ d h
    exact ⟨h.state, h.held.sound, count_release_of_none h.held⟩
  · rintro halt d ⟨hexit, ⟨held, hheld, hdev_list, hname⟩, _⟩
    refine ⟨hexit, hheld.sound, ?_, ?_⟩
    · have hcount := after_count hheld .dev_list
      rw [Multiset.count_eq_zero_of_notMem hdev_list] at hcount
      simpa using hcount
    · intro p_str
      have hcount := after_count hheld (.name p_str)
      rw [Multiset.count_eq_zero_of_notMem (hname p_str)] at hcount
      simpa using hcount

/-- Two devices, of which the first one cannot be enumerated; the second one has
channels 1 and 2. -/
@[irreducible] def twoChannels : DeviceApi Unit where
  calloc _ := (true, ())
  STAR_getDeviceList _ := (some [0, 7], ())
  STAR_getDeviceName _ _ := (some 3, ())
  STAR_resetDevice _ _ := ()
  STAR_getDeviceChannels _ _ := (6, ())
  CFG_setTransmitSignallingRate _ _ _ _ := (false, ())
  CFG_getTransmitSignallingRate _ _ _ := ()
  STAR_openChannelToLocalDevice _ _ channel := (channel.toNat + 10, ())
  STAR_createAddress _ _ := (some 5, ())
  pthread_create _ := (.ok 9, ())
  CFG_getPortStatusControl _ _ _ := (none, ())
  CFG_getSpaceWireLinkStatus _ _ := (none, ())
  CFG_setSpaceWireLinkStatus _ _ _ _ := (false, ())
  CFG_getMeasuredLinkSpeed _ _ _ := (none, ())

/-- Monitor mode on both channels of the second device. -/
def monitorOptions : List Opt := [⟨'i', some ['1'], none⟩, ⟨'M', some ['1', ':', '2'], none⟩]

def monitorSettings : Settings :=
  { settings_init (List.replicate 256 0) with
    dev_num := 1
    channel := 1
    channel2 := 2
    link_id := 1
    enable_monitor := true }

def returns : EStateM.Result DeviceHalt (Device σ) Unit → Bool
  | .ok _ _ => true
  | .error _ _ => false

/-- What is known of a program that returns. -/
theorem of_returns {x : DeviceProg σ Unit} {d : Device σ} {post : Unit → Device σ → Prop}
    {fails : DeviceHalt → Device σ → Prop} (hreturns : returns (x d) = true) (hx : wp x post fails d) :
    ∃ d', x d = .ok () d' ∧ post () d' := by
  cases hrun : x d with
  | ok _ d' => exact ⟨d', rfl, (wp_ok hrun).mp hx⟩
  | error halt d' =>
    rw [hrun] at hreturns
    cases hreturns

theorem monitorOptions_parsed :
    (settings_init (List.replicate 256 0)).parse_options (fun _ => none) monitorOptions = some monitorSettings := rfl

theorem device_lifetime_sound_monitor :
    ∃ d, device_lifetime twoChannels (.initial () monitorSettings) = .ok () d ∧ d.st = none ∧ Sound d.acts ∧
      ∀ r, d.acts.count (.release r) = d.acts.count (.acquire r) :=
  of_returns (by decide +kernel) (device_lifetime_sound twoChannels () List.length_replicate monitorOptions_parsed)

/-! ### Set-up and start-up -/

end spw_bridge.spw
