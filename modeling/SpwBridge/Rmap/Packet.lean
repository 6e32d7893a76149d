import Mathlib.Tactic.IntervalCases
import SpwBridge.Memory

namespace spw_bridge.rmap

def RMAP_CMD_BIT_WRITE : Nat := 0x8

def RMAP_READ_ADDR_SINGLE : Nat := 0x2
def RMAP_READ_ADDR_INC : Nat := 0x3
def RMAP_READ_MODIFY_WRITE_ADDR_INC : Nat := 0x7
def RMAP_WRITE_ADDR_SINGLE : Nat := 0x8
def RMAP_WRITE_ADDR_INC : Nat := 0x9
def RMAP_WRITE_ADDR_SINGLE_REPLY : Nat := 0xa
def RMAP_WRITE_ADDR_INC_REPLY : Nat := 0xb
def RMAP_WRITE_ADDR_SINGLE_VERIFY : Nat := 0xc
def RMAP_WRITE_ADDR_INC_VERIFY : Nat := 0xd
def RMAP_WRITE_ADDR_SINGLE_VERIFY_REPLY : Nat := 0xe
def RMAP_WRITE_ADDR_INC_VERIFY_REPLY : Nat := 0xf

def RMAP_PROTOCOL_ID : UInt8 := 0x01

def RMAP_HDR_MIN_SIZE_WRITE_CMD : Nat := 15
def RMAP_HDR_MIN_SIZE_WRITE_REP : Nat := 7
def RMAP_HDR_MIN_SIZE_READ_CMD : Nat := RMAP_HDR_MIN_SIZE_WRITE_CMD
def RMAP_HDR_MIN_SIZE_READ_REP : Nat := 11

def RMAP_MAX_PATH_LEN : UInt8 := 15
def RMAP_MAX_REPLY_PATH_LEN : UInt8 := 12
def RMAP_MAX_DATA_LEN : Nat := 0xFFFFFF

/-- The instruction bit-field of the header. -/
@[ext] structure RmapInstruction where
  reply_addr_len : BitVec 2
  cmd : BitVec 4
  cmd_resp : Bool
  reserved : Bool
  deriving DecidableEq, Repr

/-- The bit-field as the byte it shares its storage with; the reply address
length occupies the low bits. -/
def RmapInstruction.toUInt8 (ri : RmapInstruction) : UInt8 :=
  UInt8.ofBitVec (BitVec.ofBool ri.reserved ++ BitVec.ofBool ri.cmd_resp ++ ri.cmd ++ ri.reply_addr_len)

def RmapInstruction.ofUInt8 (instruction : UInt8) : RmapInstruction where
  reply_addr_len := instruction.toBitVec.extractLsb' 0 2
  cmd := instruction.toBitVec.extractLsb' 2 4
  cmd_resp := instruction.toBitVec.getLsbD 6
  reserved := instruction.toBitVec.getLsbD 7

private theorem ofBitVec_toUInt8 : ∀ (len : BitVec 2) (cmd : BitVec 4) (resp reserved : Bool),
    (BitVec.ofBool reserved ++ BitVec.ofBool resp ++ cmd ++ len).extractLsb' 0 2 = len ∧
    (BitVec.ofBool reserved ++ BitVec.ofBool resp ++ cmd ++ len).extractLsb' 2 4 = cmd ∧
    (BitVec.ofBool reserved ++ BitVec.ofBool resp ++ cmd ++ len).getLsbD 6 = resp ∧
    (BitVec.ofBool reserved ++ BitVec.ofBool resp ++ cmd ++ len).getLsbD 7 = reserved := by
  decide

private theorem toBitVec_ofUInt8 : ∀ b : BitVec 8,
    BitVec.ofBool (b.getLsbD 7) ++ BitVec.ofBool (b.getLsbD 6) ++ b.extractLsb' 2 4 ++ b.extractLsb' 0 2 = b := by
  decide

@[simp] theorem RmapInstruction.ofUInt8_toUInt8 (ri : RmapInstruction) : ofUInt8 ri.toUInt8 = ri := by
  obtain ⟨hlen, hcmd, hresp, hreserved⟩ :=
    ofBitVec_toUInt8 ri.reply_addr_len ri.cmd ri.cmd_resp ri.reserved
  exact RmapInstruction.ext hlen hcmd hresp hreserved

@[simp] theorem RmapInstruction.toUInt8_ofUInt8 (b : UInt8) : (ofUInt8 b).toUInt8 = b :=
  UInt8.eq_of_toBitVec_eq (toBitVec_ofUInt8 b.toBitVec)

/-- `ri.cmd & RMAP_CMD_BIT_WRITE` as a condition. -/
def RmapInstruction.writeBit (ri : RmapInstruction) : Bool :=
  ri.cmd.toNat &&& RMAP_CMD_BIT_WRITE != 0

/-- The contents of an RMAP packet. A null pointer is `none`, and an array is
the list of its bytes; `path_len` and `rpath_len` say how many entries of the
arrays are in use. -/
structure RmapPkt where
  path : Option (List UInt8)
  path_len : Nat
  dst : UInt8
  proto_id : UInt8
  ri : RmapInstruction
  key : UInt8
  src : UInt8
  rpath : Option (List UInt8)
  rpath_len : Nat
  tr_id : UInt16
  addr : UInt32
  data : Option (List UInt8)
  data_len : UInt32
  hdr_crc : UInt8
  data_crc : UInt8
  deriving DecidableEq, Repr

/-- The union member that reads the instruction bit-field as a byte. -/
def RmapPkt.instruction (pkt : RmapPkt) : UInt8 := pkt.ri.toUInt8

def rmap_validate_cmd_code (cmd : UInt8) : Int :=
  if cmd.toNat ∈ [RMAP_READ_ADDR_SINGLE, RMAP_READ_ADDR_INC, RMAP_READ_MODIFY_WRITE_ADDR_INC,
      RMAP_WRITE_ADDR_SINGLE, RMAP_WRITE_ADDR_INC, RMAP_WRITE_ADDR_SINGLE_REPLY,
      RMAP_WRITE_ADDR_INC_REPLY, RMAP_WRITE_ADDR_SINGLE_VERIFY, RMAP_WRITE_ADDR_INC_VERIFY,
      RMAP_WRITE_ADDR_SINGLE_VERIFY_REPLY, RMAP_WRITE_ADDR_INC_VERIFY_REPLY]
  then 0
  else -1

def rmap_get_min_hdr_size (pkt : RmapPkt) : Int :=
  if pkt.ri.cmd.toNat ∈ [RMAP_READ_ADDR_SINGLE, RMAP_READ_ADDR_INC, RMAP_READ_MODIFY_WRITE_ADDR_INC] then
    if pkt.ri.cmd_resp then RMAP_HDR_MIN_SIZE_READ_CMD else RMAP_HDR_MIN_SIZE_READ_REP
  else if pkt.ri.cmd.toNat ∈ [RMAP_WRITE_ADDR_SINGLE, RMAP_WRITE_ADDR_INC, RMAP_WRITE_ADDR_SINGLE_REPLY,
      RMAP_WRITE_ADDR_INC_REPLY, RMAP_WRITE_ADDR_SINGLE_VERIFY, RMAP_WRITE_ADDR_INC_VERIFY,
      RMAP_WRITE_ADDR_SINGLE_VERIFY_REPLY, RMAP_WRITE_ADDR_INC_VERIFY_REPLY] then
    if pkt.ri.cmd_resp then RMAP_HDR_MIN_SIZE_WRITE_CMD else RMAP_HDR_MIN_SIZE_WRITE_REP
  else -1

/-- The command codes that the library knows, for commands and replies alike. -/
def RmapInstruction.knownCmd (ri : RmapInstruction) : Bool :=
  [RMAP_READ_ADDR_SINGLE, RMAP_READ_ADDR_INC, RMAP_READ_MODIFY_WRITE_ADDR_INC,
    RMAP_WRITE_ADDR_SINGLE, RMAP_WRITE_ADDR_INC, RMAP_WRITE_ADDR_SINGLE_REPLY,
    RMAP_WRITE_ADDR_INC_REPLY, RMAP_WRITE_ADDR_SINGLE_VERIFY, RMAP_WRITE_ADDR_INC_VERIFY,
    RMAP_WRITE_ADDR_SINGLE_VERIFY_REPLY, RMAP_WRITE_ADDR_INC_VERIFY_REPLY].contains ri.cmd.toNat

/-- Header size without any path, by packet kind. -/
def RmapInstruction.minHdrSize (ri : RmapInstruction) : Nat :=
  if ri.cmd_resp then 15 else if ri.writeBit then 7 else 11

/-- The two branches of the size query split the known codes by their write
bit, so the query is a function of the packet kind. -/
theorem rmap_get_min_hdr_size_eq (pkt : RmapPkt) :
    rmap_get_min_hdr_size pkt = if pkt.ri.knownCmd then (pkt.ri.minHdrSize : Int) else -1 := by
  have hcmd : pkt.ri.cmd.toNat < 16 := pkt.ri.cmd.isLt
  unfold rmap_get_min_hdr_size RmapInstruction.knownCmd RmapInstruction.minHdrSize
    RmapInstruction.writeBit
  generalize pkt.ri.cmd.toNat = cmd at *
  interval_cases cmd <;> cases pkt.ri.cmd_resp <;> rfl

/-- A fresh packet: the protocol id, everything else zero. -/
def rmap_create_packet : RmapPkt where
  path := none
  path_len := 0
  dst := 0
  proto_id := RMAP_PROTOCOL_ID
  ri := ⟨0, 0, false, false⟩
  key := 0
  src := 0
  rpath := none
  rpath_len := 0
  tr_id := 0
  addr := 0
  data := none
  data_len := 0
  hdr_crc := 0
  data_crc := 0

def rmap_set_dst (pkt : RmapPkt) (addr : UInt8) : RmapPkt := { pkt with dst := addr }

def rmap_set_src (pkt : RmapPkt) (addr : UInt8) : RmapPkt := { pkt with src := addr }

def rmap_set_key (pkt : RmapPkt) (key : UInt8) : RmapPkt := { pkt with key := key }

def rmap_set_tr_id (pkt : RmapPkt) (id : UInt16) : RmapPkt := { pkt with tr_id := id }

def rmap_set_data_addr (pkt : RmapPkt) (addr : UInt32) : RmapPkt := { pkt with addr := addr }

/-- The reply path length is stored before the array is allocated, and a failed
`malloc()` leaves its null pointer in the packet. -/
def rmap_set_reply_path (alloc : Bool) (pkt : RmapPkt) (rpath : Option (List UInt8)) (len : UInt8) :
    Except Fault (Int × RmapPkt) :=
  if rpath = none ∧ len ≠ 0 then .ok (-1, pkt)
  else if RMAP_MAX_REPLY_PATH_LEN < len then .ok (-1, pkt)
  else if len &&& 0x3 ≠ 0 then .ok (-1, pkt)
  else
    let pkt := { pkt with rpath_len := len.toNat }
    if len = 0 then .ok (0, { pkt with ri := { pkt.ri with reply_addr_len := 0 } })
    else if !alloc then .ok (-1, { pkt with rpath := none })
    else do
      let bytes ← read_loop rpath 0 len.toNat
      .ok (0, { pkt with
        rpath := some bytes, ri := { pkt.ri with reply_addr_len := BitVec.ofNat 2 (len >>> 2).toNat } })

def rmap_set_dest_path (alloc : Bool) (pkt : RmapPkt) (path : Option (List UInt8)) (len : UInt8) :
    Except Fault (Int × RmapPkt) :=
  if path = none ∧ len ≠ 0 then .ok (-1, pkt)
  else if RMAP_MAX_PATH_LEN < len then .ok (-1, pkt)
  else
    let pkt := { pkt with path_len := len.toNat }
    if !alloc then .ok (-1, { pkt with path := none })
    else do
      let bytes ← read_loop path 0 len.toNat
      .ok (0, { pkt with path := some bytes })

def rmap_set_cmd (pkt : RmapPkt) (cmd : UInt8) : Int × RmapPkt :=
  if rmap_validate_cmd_code cmd ≠ 0 then (-1, pkt)
  else (0, { pkt with ri := { pkt.ri with cmd := BitVec.ofNat 4 (cmd &&& 0xF).toNat, cmd_resp := true } })

def rmap_set_data_len (pkt : RmapPkt) (len : Nat) : Int × RmapPkt :=
  if RMAP_MAX_DATA_LEN < len then (-1, pkt)
  else (0, { pkt with data_len := UInt32.ofNat len })

/-- One call of a setter with its arguments. -/
inductive Setter
  | dst (addr : UInt8)
  | src (addr : UInt8)
  | key (key : UInt8)
  | tr_id (id : UInt16)
  | data_addr (addr : UInt32)
  | cmd (cmd : UInt8)
  | reply_path (rpath : Option (List UInt8)) (len : UInt8)
  | dest_path (path : Option (List UInt8)) (len : UInt8)
  | data_len (len : Nat)

/-- The call's result and the packet it leaves; `alloc` is the outcome of its
`malloc()`, if it makes one. A setter without a result counts as successful. -/
def Setter.call (alloc : Bool) (pkt : RmapPkt) : Setter → Except Fault (Int × RmapPkt)
  | .dst a => .ok (0, rmap_set_dst pkt a)
  | .src a => .ok (0, rmap_set_src pkt a)
  | .key k => .ok (0, rmap_set_key pkt k)
  | .tr_id id => .ok (0, rmap_set_tr_id pkt id)
  | .data_addr a => .ok (0, rmap_set_data_addr pkt a)
  | .cmd c => .ok (rmap_set_cmd pkt c)
  | .reply_path p len => rmap_set_reply_path alloc pkt p len
  | .dest_path p len => rmap_set_dest_path alloc pkt p len
  | .data_len len => .ok (rmap_set_data_len pkt len)

/-- The packets built from a fresh one by successful setter calls, in any
order. -/
inductive Built : RmapPkt → Prop where
  | create : Built rmap_create_packet
  | call {pkt after : RmapPkt} (alloc : Bool) (setter : Setter) (hbuilt : Built pkt)
      (hcall : setter.call alloc pkt = .ok (0, after)) : Built after

/-- The routing bytes in use of the target path. -/
def RmapPkt.targetPath (pkt : RmapPkt) : List UInt8 := (pkt.path.getD []).take pkt.path_len

/-- The bytes in use of the reply path. -/
def RmapPkt.replyPath (pkt : RmapPkt) : List UInt8 := (pkt.rpath.getD []).take pkt.rpath_len

end spw_bridge.rmap
