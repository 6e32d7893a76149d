import SpwBridge.Library.Words
import SpwBridge.Memory

open words

namespace spw_bridge

def GRESB_FROM_HOST_DATA : UInt8 := 0

/-- `sizeof(struct host_to_gresb_pkt)`, which is also the size of the other
direction's header. -/
def GRESB_HDR_SIZE : Nat := 4

/-- The three size bytes of a packet, big-endian; higher bits are cut off. -/
def gresb_host_pkt_set_data_size (size : Nat) : List UInt8 :=
  [UInt8.ofNat (size >>> 16), UInt8.ofNat (size >>> 8), UInt8.ofNat size]

/-- Create a host-to-gresb data packet; `alloc` is the outcome of its
`malloc()`. -/
def gresb_create_host_data_pkt (alloc : Bool) (data : List UInt8) : Option (List UInt8) :=
  if !alloc then none
  else some ([GRESB_FROM_HOST_DATA] ++ gresb_host_pkt_set_data_size data.length ++ data)

def gresb_host_pkt_get_data_size (pkt : List UInt8) : Nat :=
  if byteAt pkt 0 = GRESB_FROM_HOST_DATA then (be24 (byteAt pkt 1) (byteAt pkt 2) (byteAt pkt 3)).toNat else 0

def gresb_get_host_data_pkt_size (buf : List UInt8) : Nat := GRESB_HDR_SIZE + gresb_host_pkt_get_data_size buf

/-- The bytes of a created packet that are sent. -/
def gresb_host_msg (pkt : List UInt8) : List UInt8 := pkt.take (gresb_get_host_data_pkt_size pkt)

def gresb_get_spw_data (buf : List UInt8) : List UInt8 := buf.drop GRESB_HDR_SIZE

def gresb_get_spw_data_size (buf : List UInt8) : Nat := (be24 (byteAt buf 1) (byteAt buf 2) (byteAt buf 3)).toNat

theorem gresb_get_spw_data_size_lt (buf : List UInt8) : gresb_get_spw_data_size buf < 2 ^ 24 :=
  be24_lt _ _ _

/-- The header of a host-to-gresb data packet with `size` bytes of data. -/
def gresb_host_hdr (size : Nat) : List UInt8 := GRESB_FROM_HOST_DATA :: gresb_host_pkt_set_data_size size

@[simp] theorem gresb_host_hdr_length (size : Nat) : (gresb_host_hdr size).length = GRESB_HDR_SIZE := rfl

/-- Read back, the three size bytes give the size modulo 2^24. -/
theorem be24_set_data_size (size : Nat) :
    (be24 (UInt8.ofNat (size >>> 16)) (UInt8.ofNat (size >>> 8)) (UInt8.ofNat size)).toNat = size % 2 ^ 24 := by
  simp only [toNat_be24, UInt8.toNat_ofNat', Nat.shiftRight_eq_div_pow]
  omega

theorem gresb_get_spw_data_size_hdr (size : Nat) (rest : List UInt8) :
    gresb_get_spw_data_size (gresb_host_hdr size ++ rest) = size % 2 ^ 24 :=
  be24_set_data_size size

theorem gresb_create_host_data_pkt_eq (alloc : Bool) (data : List UInt8) :
    gresb_create_host_data_pkt alloc data = if alloc then some (gresb_host_hdr data.length ++ data) else none := by
  cases alloc <;> rfl

/-- The bytes that are sent for a packet: its header and as much of the packet
as the size field says. -/
def gresb_msg (data : List UInt8) : List UInt8 := gresb_host_msg (gresb_host_hdr data.length ++ data)

theorem gresb_msg_eq (data : List UInt8) :
    gresb_msg data = gresb_host_hdr data.length ++ data.take (data.length % 2 ^ 24) := by
  have hsize : gresb_get_host_data_pkt_size (gresb_host_hdr data.length ++ data) =
      (gresb_host_hdr data.length).length + data.length % 2 ^ 24 :=
    congrArg (GRESB_HDR_SIZE + ·) (be24_set_data_size data.length)
  rw [gresb_msg, gresb_host_msg, hsize, List.take_length_add_append]

/-- Below 24 bits of length nothing is cut off. -/
theorem gresb_msg_whole {data : List UInt8} (hfits : data.length < 2 ^ 24) :
    gresb_msg data = gresb_host_hdr data.length ++ data := by
  rw [gresb_msg_eq, Nat.mod_eq_of_lt hfits, List.take_length]

/-- A message is one header with the size of the packet, followed by the
packet. -/
structure Encapsulates (msg pkt : List UInt8) : Prop where
  size : gresb_get_spw_data_size msg = pkt.length
  payload : ∃ hdr : List UInt8, hdr.length = GRESB_HDR_SIZE ∧ msg = hdr ++ pkt

theorem gresb_msg_encapsulates_iff (data : List UInt8) :
    Encapsulates (gresb_msg data) data ↔ data.length < 2 ^ 24 := by
  constructor
  · intro hencapsulates
    have hlt := Nat.mod_lt data.length (Nat.two_pow_pos 24)
    have hsize := hencapsulates.size
    rw [gresb_msg_eq, gresb_get_spw_data_size_hdr] at hsize
    omega
  · intro hfits
    refine ⟨?_, gresb_host_hdr data.length, rfl, gresb_msg_whole hfits⟩
    rw [gresb_msg_eq, gresb_get_spw_data_size_hdr, Nat.mod_eq_of_lt hfits]

end spw_bridge
