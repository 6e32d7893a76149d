import SpwBridge.Library.Resources
import SpwBridge.Settings

open resources

namespace spw_bridge.spw

/-! ### The device API -/

/-- The members of a link status that the program sets, and the others as a
whole. -/
structure LinkStatus where
  start : Bool
  running : Bool
  others : Nat
  deriving DecidableEq, Repr

def LinkStatus.zero : LinkStatus := ⟨false, false, 0⟩

/-- The calls of the device API and of the C library that set-up makes. Of the
devices one that cannot be enumerated is zero, and so is a channel that was not
opened. -/
structure DeviceApi (σ : Type) where
  calloc : σ → Bool × σ
  STAR_getDeviceList : σ → Option (List Nat) × σ
  STAR_getDeviceName : σ → Nat → Option Nat × σ
  STAR_resetDevice : σ → Nat → σ
  STAR_getDeviceChannels : σ → Nat → UInt32 × σ
  CFG_setTransmitSignallingRate : σ → Nat → UInt8 → UInt32 → Bool × σ
  CFG_getTransmitSignallingRate : σ → Nat → UInt8 → σ
  STAR_openChannelToLocalDevice : σ → Nat → UInt8 → Nat × σ
  STAR_createAddress : σ → List UInt8 → Option Nat × σ
  pthread_create : σ → Except Nat Nat × σ
  CFG_getPortStatusControl : σ → Nat → UInt8 → Option UInt32 × σ
  CFG_getSpaceWireLinkStatus : σ → UInt32 → Option LinkStatus × σ
  CFG_setSpaceWireLinkStatus : σ → Nat → UInt8 → LinkStatus → Bool × σ
  CFG_getMeasuredLinkSpeed : σ → Nat → UInt8 → Option UInt16 × σ

/-- The calls that are about a numbered part of a device, with what they pass. -/
inductive DeviceCall
  | STAR_resetDevice (dev : Nat)
  | CFG_setTransmitSignallingRate (dev : Nat) (link : UInt8) (rate : UInt32)
  | CFG_getTransmitSignallingRate (dev : Nat) (link : UInt8)
  | STAR_openChannelToLocalDevice (dev : Nat) (channel : UInt8)
  | CFG_getPortStatusControl (dev : Nat) (port : UInt8)
  | CFG_setSpaceWireLinkStatus (dev : Nat) (port : UInt8) (status : LinkStatus)
  | CFG_getMeasuredLinkSpeed (dev : Nat) (link : UInt8)
  deriving DecidableEq, Repr

/-- What is acquired and released: the memory of the state and the lock in it, the
list of the devices, the name of one, an open channel, the routing address, and a
poll thread with the channels and the address that it works with. -/
inductive Resource
  | spw_state
  | pus_op_lock
  | dev_list
  | name (p_str : Nat)
  | channel (spw_chan_id : Nat)
  | address (p_address : Nat)
  | poll (th : Nat) (spw_chan_id : List Nat) (p_address : Option Nat)
  deriving DecidableEq, Repr

/-- What has to be there as long as something is. -/
def needs : Resource → List Resource
  | .pus_op_lock => [.spw_state]
  | .poll _ spw_chan_id p_address =>
    .spw_state :: .pus_op_lock :: (spw_chan_id.map .channel ++ p_address.toList.map .address)
  | _ => []

/-- Why the process exits in set-up. -/
inductive SetupError
  | calloc
  | no_devices
  | device_number (dev_num num_devs : Nat)
  | device_enumeration (dev_num : Nat)
  | no_channels
  | channel_number (channel : Nat)
  | channel_missing (available : List Nat)
  | same_channels
  | link_speed (link_id : Nat)
  | open_channel
  | pthread_create (ret : Nat)
  deriving DecidableEq, Repr

/-- What is printed. The C library's text for an error number stands as the
number. -/
def SetupError.message : SetupError → String
  | .calloc => "calloc"
  | .no_devices => "No SpaceWire devices detected!"
  | .device_number dev_num num_devs =>
    "Cannot select device with number " ++ toString dev_num ++ ", only " ++ toString num_devs ++ " available"
  | .device_enumeration dev_num =>
    "Cannot select device with number " ++ toString dev_num ++ ", failed to enumerate it"
  | .no_channels => "Error: no valid channels on device"
  | .channel_number channel => "Invalid channel number " ++ toString channel ++ ", valid ones are 0-31"
  | .channel_missing available =>
    "Non-existent channel, available channels are: " ++ String.join (available.map fun i => toString i ++ " ")
  | .same_channels => "monitor mode requires two different channels, refusing to proceed"
  | .link_speed link_id => "Failed to set link speed for link " ++ toString link_id
  | .open_channel => "Error opening channel"
  | .pthread_create ret => "Epic fail in pthread_create: " ++ toString ret

/-- Why a call did not return: the process exited, or a null pointer was
followed. -/
inductive DeviceHalt
  | exit (error : SetupError)
  | null
  deriving DecidableEq, Repr

/-- The part of `struct spw_state` that set-up and release work on. The routing
address is kept with its bytes; without one the pointer is null. -/
structure DeviceState where
  dev_id : Nat
  p_address : Option (Nat × List UInt8)
  spw_chan_id : Chan → Nat
  shutdown : Bool
  th_spw_poll : Chan → Nat
  poll_arg : Chan → Chan

/-- Cleared memory. -/
def DeviceState.zero : DeviceState where
  dev_id := 0
  p_address := none
  spw_chan_id _ := 0
  shutdown := false
  th_spw_poll _ := 0
  poll_arg _ := false

/-- The channels that the loops run over. -/
def chans (enable_monitor : Bool) : List Chan := if enable_monitor then [false, true] else [false]

/-- The poll thread of a slot, with what it works with. -/
def DeviceState.poll (st : DeviceState) (enable_monitor : Bool) (th : Nat) : Resource :=
  .poll th ((chans enable_monitor).map st.spw_chan_id) (st.p_address.map Prod.fst)

/-- The program with its settings and what `cfg->spw` points to. What it has done with resources and
which numbers it has passed is only recorded. -/
structure Device (σ : Type) where
  env : σ
  cfg : Settings
  st : Option DeviceState
  acts : List (Act Resource)
  calls : List DeviceCall

def Device.initial {σ : Type} (env : σ) (cfg : Settings) : Device σ := ⟨env, cfg, none, [], []⟩

abbrev DeviceProg (σ : Type) := EStateM DeviceHalt (Device σ)

variable {σ α : Type}

def api (f : σ → α × σ) : DeviceProg σ α := fun d => .ok (f d.env).1 { d with env := (f d.env).2 }

def track (a : Act Resource) : DeviceProg σ Unit := modify fun d => { d with acts := d.acts ++ [a] }

/-- A call that is recorded. -/
def call (c : DeviceCall) (f : σ → α × σ) : DeviceProg σ α := do
  modify fun d => { d with calls := d.calls ++ [c] }
  api f

/-- Read through `cfg->spw`. -/
def get_state : DeviceProg σ DeviceState := do
  let d ← get
  match d.st with
  | none => throw .null
  | some st => do
    track (.use .spw_state)
    pure st

/-- Write through `cfg->spw`. -/
def modify_state (f : DeviceState → DeviceState) : DeviceProg σ Unit := do
  let st ← get_state
  modify fun d => { d with st := some (f st) }

section functions

variable (A : DeviceApi σ)

/-! ### Set-up -/

/-- List one device. -/
def print_device (dev : Nat) : DeviceProg σ Unit := do
  track (.use .dev_list)
  if dev ≠ 0 then
    let p_str ← api fun s => A.STAR_getDeviceName s dev
    match p_str with
    | some p_str => do
      track (.acquire (.name p_str))
      track (.use (.name p_str))
      track (.release (.name p_str))
    | none => pure ()
  else pure ()

def select_device (dev_num : Nat) : DeviceProg σ Nat := do
  let dev_list ← api A.STAR_getDeviceList
  match dev_list with
  | none => throw (.exit .no_devices)
  | some dev_list => do
    track (.acquire .dev_list)
    forM dev_list (print_device A)
    if dev_num ≥ dev_list.length then
      track (.release .dev_list)
      throw (.exit (.device_number dev_num dev_list.length))
    else
      track (.use .dev_list)
      let dev := dev_list.getD dev_num 0
      if dev = 0 then
        track (.release .dev_list)
        throw (.exit (.device_enumeration dev_num))
      else
        track (.release .dev_list)
        pure dev

/-- Whether a mask has a channel. -/
def in_mask (channel_mask : UInt32) (channel : Nat) : Bool := channel_mask &&& (1 <<< UInt32.ofNat channel) != 0

def select_channel (dev channel : Nat) : DeviceProg σ Nat := do
  let channel_mask ← api fun s => A.STAR_getDeviceChannels s dev
  if channel_mask = 0 ∨ channel_mask = 1 then throw (.exit .no_channels)
  else if channel > 31 then throw (.exit (.channel_number channel))
  else if in_mask channel_mask channel then pure channel
  else throw (.exit (.channel_missing ((List.range' 1 31).filter (in_mask channel_mask))))

def set_link_speed (dev link_id sig_rate : Nat) : DeviceProg σ Unit := do
  let failed ← call (.CFG_setTransmitSignallingRate dev (UInt8.ofNat link_id) (UInt32.ofNat sig_rate)) fun s =>
    A.CFG_setTransmitSignallingRate s dev (UInt8.ofNat link_id) (UInt32.ofNat sig_rate)
  if failed then throw (.exit (.link_speed link_id))
  else call (.CFG_getTransmitSignallingRate dev (UInt8.ofNat link_id)) fun s =>
    ((), A.CFG_getTransmitSignallingRate s dev (UInt8.ofNat link_id))

/-- Open a channel and store its handle; without a handle the process exits. -/
def open_device_channel (chan : Chan) (number : Nat) : DeviceProg σ Unit := do
  let st ← get_state
  let handle ← call (.STAR_openChannelToLocalDevice st.dev_id (UInt8.ofNat number)) fun s =>
    A.STAR_openChannelToLocalDevice s st.dev_id (UInt8.ofNat number)
  if handle = 0 then throw (.exit .open_channel)
  else
    track (.acquire (.channel handle))
    modify_state fun st => { st with spw_chan_id := Function.update st.spw_chan_id chan handle }

/-- Create the poll thread of a channel. -/
def create_poll (enable_monitor : Bool) (chan : Chan) : DeviceProg σ Unit := do
  let st ← get_state
  let ret ← api A.pthread_create
  match ret with
  | .error ret => throw (.exit (.pthread_create ret))
  | .ok th => do
    track (.acquire (st.poll enable_monitor th))
    modify_state fun st => { st with th_spw_poll := Function.update st.th_spw_poll chan th }

/-! `spw_setup_device`, part by part. -/

/-- The state with its lock and the arguments of the poll threads. -/
def setup_state : DeviceProg σ Unit := do
  let d ← get
  let ok ← api A.calloc
  if ok then
    track (.acquire .spw_state)
    modify fun d => { d with st := some .zero }
    track (.acquire .pus_op_lock)
    forM (chans d.cfg.enable_monitor) fun i =>
      modify_state fun st => { st with poll_arg := Function.update st.poll_arg i i }
  else throw (.exit .calloc)

/-- The device, reset where that is asked for. -/
def setup_dev_id : DeviceProg σ Nat := do
  let d ← get
  let dev ← select_device A d.cfg.dev_num
  modify_state fun st => { st with dev_id := dev }
  if d.cfg.reset_dev then call (.STAR_resetDevice dev) fun s => ((), A.STAR_resetDevice s dev) else pure ()
  pure dev

/-- The channels, in monitor mode two different ones. -/
def setup_channels (dev : Nat) : DeviceProg σ Unit := do
  let d ← get
  let channel ← select_channel A dev d.cfg.channel
  modify fun d => { d with cfg := { d.cfg with channel := channel } }
  if d.cfg.enable_monitor then
    if d.cfg.channel2 = channel then throw (.exit .same_channels)
    else
      let channel2 ← select_channel A dev d.cfg.channel2
      modify fun d => { d with cfg := { d.cfg with channel2 := channel2 } }
  else pure ()

def setup_link_speeds (dev : Nat) : DeviceProg σ Unit := do
  let d ← get
  set_link_speed A dev d.cfg.link_id d.cfg.sig_rate
  if d.cfg.enable_monitor then set_link_speed A dev d.cfg.channel2 d.cfg.sig_rate else pure ()

def open_channels : DeviceProg σ Unit := do
  let d ← get
  open_device_channel A false d.cfg.channel
  if d.cfg.enable_monitor then open_device_channel A true d.cfg.channel2 else pure ()

/-- The bytes of the routing address. Monitor mode copies packets verbatim. -/
def address_bytes (cfg : Settings) : List UInt8 := cfg.path.take (if cfg.enable_monitor then 0 else cfg.path_len)

def create_address : DeviceProg σ Unit := do
  let d ← get
  let p_address ← api fun s => A.STAR_createAddress s (address_bytes d.cfg)
  match p_address with
  | some p => do
    track (.acquire (.address p))
    modify_state fun st => { st with p_address := some (p, address_bytes d.cfg) }
  | none => modify_state fun st => { st with p_address := none }

def create_polls : DeviceProg σ Unit := do
  let d ← get
  forM (chans d.cfg.enable_monitor) (create_poll A d.cfg.enable_monitor)

/-- Set up the device, its channels, the routing address and the poll threads. -/
def spw_setup_device : DeviceProg σ Unit := do
  setup_state A
  let dev ← setup_dev_id A
  setup_channels A dev
  setup_link_speeds A dev
  open_channels A
  create_address A
  create_polls A

/-! ### The link -/

/-- Bring a link into a running state. Failures are only reported. -/
def start_link (chan link_id : Nat) : DeviceProg σ Unit := do
  let st ← get_state
  let port_status ← call (.CFG_getPortStatusControl st.dev_id (UInt8.ofNat chan)) fun s =>
    A.CFG_getPortStatusControl s st.dev_id (UInt8.ofNat chan)
  let link_status ← api fun s => A.CFG_getSpaceWireLinkStatus s (port_status.getD 0)
  let link_status := { link_status.getD .zero with start := true, running := true }
  let _ ← call (.CFG_setSpaceWireLinkStatus st.dev_id (UInt8.ofNat chan) link_status) fun s =>
    A.CFG_setSpaceWireLinkStatus s st.dev_id (UInt8.ofNat chan) link_status
  let _ ← call (.CFG_getMeasuredLinkSpeed st.dev_id (UInt8.ofNat link_id)) fun s =>
    A.CFG_getMeasuredLinkSpeed s st.dev_id (UInt8.ofNat link_id)
  pure ()

def spw_start_link : DeviceProg σ Unit := do
  let d ← get
  start_link A d.cfg.channel d.cfg.link_id
  if d.cfg.enable_monitor then start_link A d.cfg.channel2 d.cfg.channel2 else pure ()

end functions

/-! ### Release -/

def spw_request_shutdown : DeviceProg σ Unit := modify_state fun st => { st with shutdown := true }

/-- Wait for the poll threads. The operations whose waits are cancelled under the
lock are not the device's. -/
def spw_stop_poll : DeviceProg σ Unit := do
  let d ← get
  modify_state fun st => { st with shutdown := true }
  track (.use .pus_op_lock)
  forM (chans d.cfg.enable_monitor) fun i => do
    let st ← get_state
    track (.release (st.poll d.cfg.enable_monitor (st.th_spw_poll i)))

/-- The transfer operations, which are not the device's, are disposed under the
lock. -/
def spw_dispose_ops : DeviceProg σ Unit := do
  let _ ← get_state
  track (.use .pus_op_lock)

def destroy_address (st : DeviceState) : DeviceProg σ Unit :=
  match st.p_address with
  | some (p_address, _) => track (.release (.address p_address))
  | none => pure ()

def close_channels (enable_monitor : Bool) (st : DeviceState) : DeviceProg σ Unit :=
  forM (chans enable_monitor) fun i =>
    if st.spw_chan_id i ≠ 0 then track (.release (.channel (st.spw_chan_id i))) else pure ()

def spw_release : DeviceProg σ Unit := do
  let d ← get
  let st ← get_state
  destroy_address st
  close_channels d.cfg.enable_monitor st
  track (.release .pus_op_lock)
  track (.release .spw_state)
  modify fun d => { d with st := none }

/-- What `main` does with the SpW side, from start to end. -/
def device_lifetime (A : DeviceApi σ) : DeviceProg σ Unit := do
  spw_setup_device A
  spw_start_link A
  spw_request_shutdown
  spw_stop_poll
  spw_dispose_ops
  spw_release

end spw_bridge.spw
