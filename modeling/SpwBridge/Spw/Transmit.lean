import SpwBridge.World

open effect

namespace spw_bridge

def RMAP_DEFAULT_SRC : UInt8 := 0x30
def RMAP_DEFAULT_KEY : UInt8 := 0xab

variable {σ : Type}

/-- `if (!ok) exit(EXIT_FAILURE)` on the outcome of a call. -/
def exit_unless (f : σ → Bool × σ) : Prog σ Unit := do
  let ok ← syscall f
  if ok then pure () else throw .exit

def spw_link_ready (cfg : BridgeCfg) (w : World σ) : Bool :=
  match w.spw with
  | none => false
  | some st =>
    if cfg.enable_monitor then st.spw_chan_id false != 0 && st.spw_chan_id true != 0
    else st.spw_chan_id false != 0

theorem spw_some_of_ready {cfg : BridgeCfg} {w : World σ} (hready : spw_link_ready cfg w = true) :
    ∃ st, w.spw = some st := by
  cases hst : w.spw with
  | none => simp [spw_link_ready, hst] at hready
  | some st => exact ⟨st, rfl⟩

/-- The routing address that a packet is created with. Without a device state
the pointer is null. -/
def tx_address : Prog σ (List UInt8) := do
  let w ← get
  match w.spw with
  | none => throw (.fault .null)
  | some st => pure st.p_address

/-- Transmit a packet on a channel. The address precedes the bytes on the wire,
whose number is passed on as 32 bits. -/
def spw_send_packet_chan (E : Env σ) (chan : Chan) (buf : List UInt8) : Prog σ Unit := do
  log_spw (.send_packet chan buf)
  let p_address ← tx_address
  exit_unless E.STAR_createPacket
  exit_unless E.STAR_createTxOperation
  exit_unless E.STAR_submitTransferOperation
  log_spw (.submit chan (p_address ++ buf.take (buf.length % 2 ^ 32)))
  exit_unless E.STAR_waitOnTransferOperationCompletion

def spw_send_packet (E : Env σ) (buf : List UInt8) : Prog σ Unit := spw_send_packet_chan E false buf

/-- Issue a simplified RMAP command. A packet that the library does not build
is not transmitted, and a failed transmission is only reported. -/
def spw_rmap_cmd (E : Env σ) (dst op : UInt8) (addr : UInt32) (data : List UInt8) : Prog σ Unit := do
  log_spw (.rmap_cmd dst op addr data)
  let pkt ← syscall fun s => E.RMAP_BuildCommandPacket s
    (if op ≠ 0 then .write dst RMAP_DEFAULT_SRC RMAP_DEFAULT_KEY addr data (UInt32.ofNat data.length)
    else .read dst RMAP_DEFAULT_SRC RMAP_DEFAULT_KEY addr 5)
  match pkt with
  | none => pure ()
  | some pkt => do
    let _ ← tx_address
    log_spw (.transmit false (pkt.take (pkt.length % 2 ^ 32)))
    let _ ← syscall E.STAR_transmitPacket
    pure ()

/-- Open a channel and store its handle; without a handle the process exits. -/
def open_channel (E : Env σ) (chan : Chan) (number : Nat) : Prog σ Unit := do
  let handle ← syscall fun s => E.STAR_openChannel s number
  if handle = 0 then throw .exit
  else modify fun w => { w with spw := w.spw.map fun st =>
    { st with spw_chan_id := Function.update st.spw_chan_id chan handle } }

/-- Set up the device. The state is stored first, empty; the routing address is
stored last, and monitor mode has none; `STAR_createAddress` succeeds here. -/
def spw_setup_device (E : Env σ) (cfg : BridgeCfg) : Prog σ Unit := do
  exit_unless E.malloc
  modify fun w => { w with spw := some ⟨[], fun _ => 0⟩ }
  exit_unless E.device
  if cfg.enable_monitor && cfg.channel2 == cfg.channel then throw .exit
  exit_unless E.device
  open_channel E false cfg.channel
  if cfg.enable_monitor then open_channel E true cfg.channel2
  modify fun w => { w with spw := w.spw.map fun st =>
    { st with p_address := cfg.path.take (if cfg.enable_monitor then 0 else cfg.path_len) } }

/-- The device state that monitor mode runs with: both channels open and no
routing address. -/
def MonitorReady (w : World σ) : Prop :=
  ∃ st, w.spw = some st ∧ st.p_address = [] ∧ ∀ chan, st.spw_chan_id chan ≠ 0

@[simp] theorem wp_exit_unless {post : Unit → World σ → Prop} {fails : Halt → World σ → Prop} {w : World σ}
    (f : σ → Bool × σ) : wp (exit_unless f) post fails w ↔
      if (f w.env).1 then post () { w with env := (f w.env).2 }
      else fails .exit { w with env := (f w.env).2 } := by
  simp only [exit_unless, wp_bind, wp_syscall]
  cases (f w.env).1 <;> simp

@[simp] theorem wp_tx_address {post : List UInt8 → World σ → Prop} {fails : Halt → World σ → Prop} {w : World σ} :
    wp tx_address post fails w ↔
      match w.spw with
      | none => fails (.fault .null) w
      | some st => post st.p_address w := by
  simp only [tx_address, wp_bind, wp_get]
  cases w.spw <;> simp

@[simp] theorem wp_open_channel {E : Env σ} {chan : Chan} {number : Nat} {post : Unit → World σ → Prop}
    {fails : Halt → World σ → Prop} {w : World σ} :
    wp (open_channel E chan number) post fails w ↔
      if (E.STAR_openChannel w.env number).1 = 0 then fails .exit { w with env := (E.STAR_openChannel w.env number).2 }
      else post () { w with
        env := (E.STAR_openChannel w.env number).2
        spw := w.spw.map fun st => { st with
          spw_chan_id := Function.update st.spw_chan_id chan (E.STAR_openChannel w.env number).1 } } := by
  simp only [open_channel, wp_bind, wp_syscall, wp_ite, wp_throw, wp_modify]

/-- Device set-up in monitor mode ends in that state or exits. -/
theorem spw_setup_device_monitorReady {E : Env σ} {cfg : BridgeCfg} (hmonitor : cfg.enable_monitor = true)
    {w after : World σ} (hsetup : spw_setup_device E cfg w = .ok () after) : MonitorReady after := by
  have hwp : wp (spw_setup_device E cfg) (fun _ w => MonitorReady w) (fun _ _ => True) w := by
    simp only [spw_setup_device, wp_bind, wp_exit_unless, wp_modify, hmonitor, Bool.true_and, wp_ite, wp_throw,
      wp_open_channel, Option.map_some, ↓reduceIte]
    split_ifs
    refine ⟨_, rfl, by simp, ?_⟩
    intro chan
    cases chan <;> simpa [Function.update]
  exact (wp_ok hsetup).mp hwp

end spw_bridge
