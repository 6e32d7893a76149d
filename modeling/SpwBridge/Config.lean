import Mathlib.Data.Finset.Basic

namespace spw_bridge

inductive NetMode
  | MODE_SERVER
  | MODE_CLIENT
  | MODE_DGRAM
  deriving DecidableEq, Repr

/-- The options of `struct bridge_cfg` that decide what the bridge does with a
packet or where it goes. -/
structure BridgeCfg where
  mode : NetMode
  channel : Nat
  channel2 : Nat
  path : List UInt8
  path_len : Nat
  skip_header_bytes : Nat
  interpret_pus : Bool
  interpret_fee : Bool
  enable_monitor : Bool
  enable_rmap : Bool
  enable_gresb : Bool
  enable_sniff : Bool
  sniff_gresb : Bool
  deriving DecidableEq, Repr

def DEFAULT_CHAN : Nat := 1

/-- The settings without any option. The path array keeps what the memory held. -/
def bridge_cfg_init (path : List UInt8) : BridgeCfg where
  mode := .MODE_SERVER
  channel := DEFAULT_CHAN
  channel2 := 0
  path := path
  path_len := 0
  skip_header_bytes := 0
  interpret_pus := false
  interpret_fee := false
  enable_monitor := false
  enable_rmap := false
  enable_gresb := false
  enable_sniff := false
  sniff_gresb := false

/-- The network services of `struct net_state`. -/
inductive SvcId
  | data
  | rmap
  | gresb_tx
  | gresb_rx
  | sniff
  deriving DecidableEq, Repr

/-- An IPv4 endpoint. -/
structure SockaddrIn where
  addr : UInt32
  port : UInt16
  deriving DecidableEq, Repr

/-- One service with its clients. `sock_fd` is zero while the service is not
opened; `clients` holds the `nclients` registered peers. -/
structure NetService where
  sock_fd : Nat
  conn_set : Finset Nat
  nfds : Nat
  clients : List SockaddrIn
  clients_cap : Nat

/-- The part of `struct spw_state` that transmission depends on: the bytes of
the routing address and the handles of the channels, zero until opened. -/
structure SpwState where
  p_address : List UInt8
  spw_chan_id : Bool → Nat

/-- A channel index; `true` is the second channel of monitor mode. -/
abbrev Chan := Bool

end spw_bridge
