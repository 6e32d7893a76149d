import SpwBridge.Ecss.Crc16
import SpwBridge.Ecss.Sizes

open masks words

namespace spw_bridge.ecss

/-- The options of `struct bridge_cfg` that decide what is printed of a packet. -/
structure DebugCfg where
  pus_debug : Bool
  interpret_pus : Bool
  crc_check : Bool
  debug_short : Bool
  deriving DecidableEq, Repr

/-- The lines of the printout with the values in them. The time of day before
the direction is left out. -/
inductive DebugLine
  | direction (dir : String)
  | short_packet (len : Nat)
  | ccsds (tmtc : UInt8) (apid : UInt16) (seq_flags : UInt8) (seq_count data_len : UInt16)
  | not_valid
  | not_pus_c (version : UInt8)
  | pus_tc (st sst : UInt8) (source_id : UInt16) (compl progr start accept : Int)
  | pus_tm (st sst : UInt8) (mtc dest_id : UInt16) (tref : UInt8) (ts : Option (List UInt8))
  | crc (valid : Int)
  | payload_missing (declared offset : Nat)
  | payload_truncated (declared received : Nat)
  | payload (bytes : List UInt8)
  deriving DecidableEq, Repr

def debug_ccsds (pkt : Pkt) (tmtc : UInt8) : Except Fault DebugLine := do
  let apid ← ccsds_get_apid pkt
  let seq_flags ← ccsds_get_seq_flags pkt
  let seq_count ← ccsds_get_seq_cnt pkt
  let data_len ← ccsds_get_data_len pkt
  .ok (.ccsds tmtc apid seq_flags seq_count data_len)

def debug_tc (pkt : Pkt) : Except Fault DebugLine := do
  let st ← ecss_get_service_type pkt
  let sst ← ecss_get_sub_service_type pkt
  let source_id ← ecss_get_source_id pkt
  let compl ← ecss_get_exec_compl_ack pkt
  let progr ← ecss_get_exec_progr_ack pkt
  let start ← ecss_get_exec_start_ack pkt
  let accept ← ecss_get_pkt_accept_ack pkt
  .ok (.pus_tc st sst source_id compl progr start accept)

def debug_tm (pkt : Pkt) : Except Undef DebugLine := do
  let tref ← access (ecss_get_sc_time_ref_status pkt)
  let st ← access (ecss_get_service_type pkt)
  let sst ← access (ecss_get_sub_service_type pkt)
  let mtc ← access (ecss_get_msg_type_cntr pkt)
  let dest_id ← access (ecss_get_destination_id pkt)
  let (result, ts) ← ecss_get_timestamp pkt (some (List.replicate PUS_C_TM_TIME_OCTETS 0))
  .ok (.pus_tm st sst mtc dest_id tref (if result < 0 then none else ts))

def debug_pus (pkt : Pkt) (tmtc : UInt8) : Except Undef DebugLine :=
  if tmtc ≠ 0 then access (debug_tc pkt) else debug_tm pkt

def debug_payload (pkt : List UInt8) (len : Nat) : Except Fault (List DebugLine) := do
  let pld_len ← ecss_get_pld_size (some pkt)
  let offset ← ecss_get_payload_offset (some pkt)
  let pld_len := pld_len.toNat
  let pld_off := (offset / 8).toNat
  if pld_off ≥ len then .ok [.payload_missing pld_len pld_off]
  else do
    let avail := len - pld_off
    let truncated := if pld_len > avail then [DebugLine.payload_truncated pld_len avail] else []
    let pld_len := if pld_len > avail then avail else pld_len
    let bytes ← read_loop (some pkt) pld_off pld_len
    .ok (truncated ++ [.payload bytes])

/-- The lines behind that of a PUS-C packet. -/
def debug_rest (cfg : DebugCfg) (lut : Crc16SlicedLut) (pkt : List UInt8) (len : Nat) :
    Except Fault (List DebugLine) := do
  let crc ← if cfg.crc_check then (fun valid => [DebugLine.crc valid]) <$> pus_pkt_crc_valid lut pkt len else .ok []
  if cfg.debug_short then .ok crc
  else do
    let payload ← debug_payload pkt len
    .ok (crc ++ payload)

def pus_debug_print (cfg : DebugCfg) (lut : Crc16SlicedLut) (dir : String) (pkt : List UInt8) (len : Nat) :
    Except Undef (List DebugLine) :=
  if !cfg.pus_debug then .ok []
  else if !cfg.interpret_pus then .ok []
  else if len < 6 then .ok [.direction dir, .short_packet len]
  else do
    let tmtc ← access (ccsds_get_pkt_type (some pkt))
    let ccsds ← access (debug_ccsds (some pkt) tmtc)
    let valid ← access (ecss_is_pkt_valid (some pkt))
    if valid = 0 then .ok [.direction dir, ccsds, .not_valid]
    else do
      let version ← access (ecss_get_pkt_version (some pkt))
      if version ≠ PUS_C_VERSION then do
        let version ← access (ecss_get_pkt_version (some pkt))
        .ok [.direction dir, ccsds, .not_pus_c version]
      else do
        let pus ← debug_pus (some pkt) tmtc
        let rest ← access (debug_rest cfg lut pkt len)
        .ok ([.direction dir, ccsds, pus] ++ rest)

/-- The packets whose printout needs nothing behind their end. -/
def PrintsWithin (pkt : List UInt8) : Prop :=
  pkt.length < 6 ∨ (headerOf pkt).pkt_version ≠ 0 ∨ (headerOf pkt).sec_hdr_flag = 0 ∨
    (6 < pkt.length ∧ ((byteAt pkt 6 &&& 0xf0) >>> 4 ≠ PUS_C_VERSION ∨ header_length pkt ≤ pkt.length))

theorem access_eq_ok_iff {A : Type} {x : Except Fault A} {a : A} : access x = .ok a ↔ x = .ok a := by
  cases x <;> simp [access]

theorem undef_bind_eq_ok_iff {A B : Type} {x : Except Undef A} {f : A → Except Undef B} {y : B} :
    (x >>= f) = .ok y ↔ ∃ a, x = .ok a ∧ f a = .ok y := by
  cases x <;> simp [Bind.bind, Except.bind]

theorem rd_payload_within {pkt : List UInt8} {off : Nat} {b : UInt8} (h : rd_payload (some pkt) off = .ok b) :
    6 + off < pkt.length := by
  by_contra hoff
  rw [rd_payload_outside hoff] at h
  cases h

theorem rd_payload_word_within {pkt : List UInt8} {off : Nat} {word : UInt16}
    (h : rd_payload_word (some pkt) off = .ok word) : 6 + (off + 1) < pkt.length := by
  rw [rd_payload_word, bind_eq_ok_iff] at h
  obtain ⟨hi, _, h⟩ := h
  rw [bind_eq_ok_iff] at h
  obtain ⟨lo, hlo, _⟩ := h
  exact rd_payload_within hlo

/-- A copy that returns has read all it was to copy. -/
theorem copy_loop_within {dst src copied : List UInt8} {doff soff n : Nat}
    (h : copy_loop dst doff src soff n = .ok copied) : n = 0 ∨ soff + n ≤ src.length := by
  induction n generalizing dst doff soff with
  | zero => exact Or.inl rfl
  | succ n ih =>
    rw [copy_loop, bind_eq_ok_iff] at h
    obtain ⟨b, hread, h⟩ := h
    rw [bind_eq_ok_iff] at h
    obtain ⟨dst', _, h⟩ := h
    have hsoff : soff < src.length := by
      by_contra hout
      rw [rd, if_neg hout] at hread
      cases hread
    have hrest := ih h
    omega

section Secondary

variable {pkt : List UInt8} (hflag : (headerOf pkt).sec_hdr_flag ≠ 0)

include hflag

theorem debug_tc_ok (htc : (headerOf pkt).pkt_type = SPP_PKT_TYPE_IS_TC) (hlen : 11 ≤ pkt.length) :
    ∃ line, debug_tc (some pkt) = .ok line := by
  have hack : ∀ flag, ∃ set, ecss_get_ack (some pkt) flag = .ok set := by
    intro flag
    rw [ecss_get_ack, ecss_get_ack_flags_ok hflag htc (by omega), bind_ok]
    split
    · exact ⟨0, rfl⟩
    · split
      · exact ⟨1, rfl⟩
      · exact ⟨0, rfl⟩
  obtain ⟨compl, hcompl⟩ := hack PUS_ACK_EXEC_COMPL
  obtain ⟨progr, hprogr⟩ := hack PUS_ACK_EXEC_PROGR
  obtain ⟨start, hstart⟩ := hack PUS_ACK_EXEC_START
  obtain ⟨accept, haccept⟩ := hack PUS_ACK_PKT_ACCEPT
  rw [debug_tc, ecss_get_service_type_ok (by omega), bind_ok, ecss_get_sub_service_type_ok hflag (by omega), bind_ok,
    ecss_get_source_id_ok hflag htc (by omega), bind_ok, ecss_get_exec_compl_ack, hcompl, bind_ok,
    ecss_get_exec_progr_ack, hprogr, bind_ok, ecss_get_exec_start_ack, hstart, bind_ok, ecss_get_pkt_accept_ack,
    haccept, bind_ok]
  exact ⟨_, rfl⟩

/-- The source id is the last thing read of a telecommand's header. -/
theorem debug_tc_within (hpos : 0 < pkt.length) (htc : (headerOf pkt).pkt_type = SPP_PKT_TYPE_IS_TC)
    {line : DebugLine} (h : debug_tc (some pkt) = .ok line) : 11 ≤ pkt.length := by
  rw [debug_tc, bind_eq_ok_iff] at h
  obtain ⟨st, _, h⟩ := h
  rw [bind_eq_ok_iff] at h
  obtain ⟨sst, _, h⟩ := h
  rw [bind_eq_ok_iff] at h
  obtain ⟨source_id, hsource, _⟩ := h
  rw [ecss_get_source_id, with_2nd_hdr_some hpos, if_neg hflag, with_pkt_type_some hpos,
    if_neg (not_not_intro htc)] at hsource
  have hword := rd_payload_word_within hsource
  simp only [PUS_ECSS_SRCID_OFFSET] at hword
  omega

theorem debug_tm_ok (htm : (headerOf pkt).pkt_type = SPP_PKT_TYPE_IS_TM)
    (hversion : ecss_get_pkt_version (some pkt) = .ok PUS_C_VERSION) (hlen : 19 ≤ pkt.length) :
    ∃ line, debug_tm (some pkt) = .ok line := by
  have htime := ecss_get_timestamp_ok hflag htm hlen ⟨List.replicate PUS_C_TM_TIME_OCTETS 0, List.length_replicate⟩
  rw [debug_tm, ecss_get_sc_time_ref_status_ok hflag htm (by omega), access_ok, undef_bind_ok,
    ecss_get_service_type_ok (by omega), access_ok, undef_bind_ok, ecss_get_sub_service_type_ok hflag (by omega),
    access_ok, undef_bind_ok, ecss_get_msg_type_cntr_ok hflag hversion htm (by omega), access_ok, undef_bind_ok,
    ecss_get_destination_id_ok hflag htm (by omega), access_ok, undef_bind_ok, htime, undef_bind_ok]
  exact ⟨_, rfl⟩

/-- The timestamp is the last thing read of a telemetry packet's header. -/
theorem debug_tm_within (hpos : 0 < pkt.length) (htm : (headerOf pkt).pkt_type = SPP_PKT_TYPE_IS_TM)
    {line : DebugLine} (h : debug_tm (some pkt) = .ok line) : 19 ≤ pkt.length := by
  rw [debug_tm, undef_bind_eq_ok_iff] at h
  obtain ⟨tref, _, h⟩ := h
  rw [undef_bind_eq_ok_iff] at h
  obtain ⟨st, _, h⟩ := h
  rw [undef_bind_eq_ok_iff] at h
  obtain ⟨sst, _, h⟩ := h
  rw [undef_bind_eq_ok_iff] at h
  obtain ⟨mtc, _, h⟩ := h
  rw [undef_bind_eq_ok_iff] at h
  obtain ⟨dest_id, _, h⟩ := h
  rw [undef_bind_eq_ok_iff] at h
  obtain ⟨⟨result, ts⟩, htime, _⟩ := h
  rw [ecss_get_timestamp, get_2nd_hdr_flag_ok hpos, access_ok, undef_bind_ok, if_neg hflag, if_neg (by simp),
    get_pkt_type_ok hpos, access_ok, undef_bind_ok, if_neg (not_not_intro htm), undef_bind_eq_ok_iff] at htime
  obtain ⟨bits, hbits, _⟩ := htime
  change bitcpy (some (List.replicate 6 0)) (0 * 8) (some (pkt.drop 6)) (7 * 8) (6 * 8) = .ok bits at hbits
  rw [bitcpy_octets, undef_bind_eq_ok_iff] at hbits
  obtain ⟨copied, hcopy, _⟩ := hbits
  have hwithin := copy_loop_within (access_eq_ok_iff.mp hcopy)
  rw [List.length_drop] at hwithin
  omega

/-- The line of a PUS-C packet needs exactly the headers of its type. -/
theorem debug_secondary_iff (hlen : 6 < pkt.length) (hversion : ecss_get_pkt_version (some pkt) = .ok PUS_C_VERSION) :
    (∃ line, debug_pus (some pkt) (headerOf pkt).pkt_type = .ok line) ↔ header_length pkt ≤ pkt.length := by
  have hpos : 0 < pkt.length := by omega
  obtain htm | htc := pkt_type_cases pkt
  · rw [header_length_tm htm, htm, debug_pus, if_neg (by decide)]
    constructor
    · rintro ⟨line, hline⟩
      exact debug_tm_within hflag hpos htm hline
    · exact debug_tm_ok hflag htm hversion
  · rw [header_length_tc htc, htc, debug_pus, if_pos (by decide)]
    constructor
    · rintro ⟨line, hline⟩
      exact debug_tc_within hflag hpos htc (access_eq_ok_iff.mp hline)
    · intro hroom
      obtain ⟨line, hline⟩ := debug_tc_ok hflag htc hroom
      exact ⟨line, access_eq_ok_iff.mpr hline⟩

end Secondary

theorem crc16_loop_returns (lut : Crc16SlicedLut) {p : List UInt8} {i n : Nat} (hlen : i + n ≤ p.length)
    (S : UInt16) : ∃ crc, crc16_loop lut p i n S = .ok crc := by
  induction n generalizing i S with
  | zero => exact ⟨S, rfl⟩
  | succ n ih =>
    rw [crc16_loop, rd_ok (by omega), bind_ok]
    exact ih (by omega) _

theorem pus_pkt_crc_valid_returns (lut : Crc16SlicedLut) (pkt : List UInt8) :
    ∃ valid, pus_pkt_crc_valid lut pkt pkt.length = .ok valid := by
  rw [pus_pkt_crc_valid]
  split
  case isTrue => exact ⟨0, rfl⟩
  case isFalse hlong =>
    simp only [PUS_ECSS_CRC_LEN, Nat.not_le] at hlong ⊢
    obtain ⟨crc, hcrc⟩ := @crc16_loop_returns lut pkt 0 (pkt.length - 2) (by omega) 0xffff
    have hsome : ¬ pkt.length - 2 = 0 := by omega
    simp only [crc16_buf, if_neg hsome, hcrc, rd_ok (show pkt.length - 2 < pkt.length by omega),
      rd_ok (show pkt.length - 1 < pkt.length by omega), bind_ok]
    exact ⟨_, rfl⟩

theorem debug_payload_ok {pkt : List UInt8} (hlen : 6 ≤ pkt.length) {valid : Int}
    (hvalid : ecss_is_pkt_valid (some pkt) = .ok valid) (haccepted : valid ≠ 0) :
    ∃ lines, debug_payload pkt pkt.length = .ok lines := by
  rw [debug_payload, pld_size_ok hlen hvalid haccepted, bind_ok, payload_offset_ok (by omega), bind_ok]
  dsimp only
  split
  case isTrue => exact ⟨_, rfl⟩
  case isFalse hroom =>
    rw [read_loop_ok]
    · exact ⟨_, rfl⟩
    · split <;> omega

theorem debug_rest_ok (cfg : DebugCfg) (lut : Crc16SlicedLut) {pkt : List UInt8} (hlen : 6 ≤ pkt.length)
    {valid : Int} (hvalid : ecss_is_pkt_valid (some pkt) = .ok valid) (haccepted : valid ≠ 0) :
    ∃ lines, debug_rest cfg lut pkt pkt.length = .ok lines := by
  obtain ⟨crc, hcrc⟩ := pus_pkt_crc_valid_returns lut pkt
  obtain ⟨payload, hpayload⟩ := debug_payload_ok hlen hvalid haccepted
  rw [debug_rest, hcrc, hpayload]
  cases cfg.crc_check <;> cases cfg.debug_short <;> exact ⟨_, rfl⟩

theorem debug_ccsds_ok {pkt : List UInt8} (hlen : 6 ≤ pkt.length) (tmtc : UInt8) :
    ∃ line, debug_ccsds (some pkt) tmtc = .ok line := by
  rw [debug_ccsds, get_apid_ok (by omega), bind_ok, get_seq_flags_ok (by omega), bind_ok, get_seq_cnt_ok (by omega),
    bind_ok, get_data_len_ok hlen, bind_ok]
  exact ⟨_, rfl⟩

/-- The printout of a packet of six octets or more, up to the line that its
secondary header decides. -/
theorem pus_debug_print_header {cfg : DebugCfg} (lut : Crc16SlicedLut) (dir : String) {pkt : List UInt8}
    (hdebug : cfg.pus_debug = true) (hpus : cfg.interpret_pus = true) (hlen : 6 ≤ pkt.length) :
    ∃ ccsds, pus_debug_print cfg lut dir pkt pkt.length =
      (access (ecss_is_pkt_valid (some pkt)) >>= fun valid =>
        if valid = 0 then .ok [.direction dir, ccsds, .not_valid]
        else access (ecss_get_pkt_version (some pkt)) >>= fun version =>
          if version ≠ PUS_C_VERSION then access (ecss_get_pkt_version (some pkt)) >>= fun version =>
            .ok [.direction dir, ccsds, .not_pus_c version]
          else debug_pus (some pkt) (headerOf pkt).pkt_type >>= fun pus =>
            access (debug_rest cfg lut pkt pkt.length) >>= fun rest =>
              .ok ([.direction dir, ccsds, pus] ++ rest)) := by
  obtain ⟨ccsds, hccsds⟩ := debug_ccsds_ok hlen (headerOf pkt).pkt_type
  have hshort : ¬ pkt.length < 6 := by omega
  refine ⟨ccsds, ?_⟩
  rw [pus_debug_print, hdebug, hpus, if_neg (by decide), if_neg (by decide), if_neg hshort,
    get_pkt_type_ok (by omega), access_ok, undef_bind_ok, hccsds, access_ok, undef_bind_ok]

/-- A packet with a secondary header of a version that is known. -/
theorem pus_debug_print_secondary_iff {cfg : DebugCfg} (lut : Crc16SlicedLut) (dir : String) {pkt : List UInt8}
    (hdebug : cfg.pus_debug = true) (hpus : cfg.interpret_pus = true) (hlen : 6 ≤ pkt.length)
    (hversion : (headerOf pkt).pkt_version = 0) (hflag : (headerOf pkt).sec_hdr_flag ≠ 0) :
    (∃ lines, pus_debug_print cfg lut dir pkt pkt.length = .ok lines) ↔
      6 < pkt.length ∧ ((byteAt pkt 6 &&& 0xf0) >>> 4 ≠ PUS_C_VERSION ∨ header_length pkt ≤ pkt.length) := by
  have hpos : 0 < pkt.length := by omega
  have hvalid := is_pkt_valid_pus hpos hversion hflag
  obtain ⟨ccsds, hprint⟩ := pus_debug_print_header lut dir hdebug hpus hlen
  rw [hprint, hvalid]
  by_cases hoctet : 6 < pkt.length
  · have hget := ecss_get_pkt_version_ok hflag hoctet
    rw [hget, bind_ok] at hvalid
    rw [hget, bind_ok]
    generalize (byteAt pkt 6 &&& 0xf0) >>> 4 = pus at hget hvalid ⊢
    by_cases hpusc : pus = PUS_C_VERSION
    · subst hpusc
      rw [if_neg (show ¬ ecss_pus_version_valid PUS_C_VERSION = 0 by decide)] at hvalid ⊢
      have hsecondary := debug_secondary_iff hflag hoctet hget
      obtain ⟨rest, hrest⟩ := debug_rest_ok cfg lut hlen hvalid (by decide)
      simp only [access_ok, undef_bind_ok, hrest, show ¬ (1 : Int) = 0 by decide, if_false, ne_eq, not_true_eq_false,
        hoctet, true_and, false_or] at hsecondary ⊢
      rw [← hsecondary]
      constructor
      · rintro ⟨lines, hlines⟩
        obtain ⟨line, hline, _⟩ := undef_bind_eq_ok_iff.mp hlines
        exact ⟨line, hline⟩
      · rintro ⟨line, hline⟩
        exact ⟨_, undef_bind_eq_ok_iff.mpr ⟨line, hline, rfl⟩⟩
    · have hinside : 6 < pkt.length ∧ (pus ≠ PUS_C_VERSION ∨ header_length pkt ≤ pkt.length) :=
        ⟨hoctet, Or.inl hpusc⟩
      simp only [iff_true_intro hinside, iff_true]
      by_cases hknown : ecss_pus_version_valid pus = 0
      · rw [if_pos hknown]
        exact ⟨_, rfl⟩
      · rw [if_neg hknown]
        simp only [access_ok, undef_bind_ok, show ¬ (1 : Int) = 0 by decide, if_false, ne_eq, hpusc,
          not_false_eq_true, if_true]
        exact ⟨_, rfl⟩
  · have hout : ecss_get_pkt_version (some pkt) = .error (.read 6) := by
      rw [ecss_get_pkt_version, with_2nd_hdr_some hpos, if_neg hflag, PUS_ECSS_VER_OFFSET, rd_payload_outside hoctet]
      rfl
    rw [hout]
    constructor
    · rintro ⟨lines, hlines⟩
      cases hlines
    · rintro ⟨hin, _⟩
      exact absurd hin hoctet

/-- The printout of a packet stays inside it exactly if there is none or the
packet needs nothing behind its end. -/
theorem pus_debug_print_within_iff (cfg : DebugCfg) (lut : Crc16SlicedLut) (dir : String) (pkt : List UInt8) :
    (∃ lines, pus_debug_print cfg lut dir pkt pkt.length = .ok lines) ↔
      cfg.pus_debug = false ∨ cfg.interpret_pus = false ∨ PrintsWithin pkt := by
  cases hdebug : cfg.pus_debug
  case false =>
    simp only [true_or, iff_true]
    rw [pus_debug_print, hdebug]
    exact ⟨_, rfl⟩
  cases hpus : cfg.interpret_pus
  case false =>
    simp only [true_or, or_true, iff_true]
    rw [pus_debug_print, hdebug, hpus]
    exact ⟨_, rfl⟩
  simp only [Bool.true_eq_false, false_or, PrintsWithin]
  by_cases hshort : pkt.length < 6
  · simp only [hshort, true_or, iff_true]
    rw [pus_debug_print, hdebug, hpus, if_neg (by decide), if_neg (by decide), if_pos hshort]
    exact ⟨_, rfl⟩
  have hlen : 6 ≤ pkt.length := by omega
  have hpos : 0 < pkt.length := by omega
  simp only [hshort, false_or]
  by_cases hversion : (headerOf pkt).pkt_version = 0
  · by_cases hflag : (headerOf pkt).sec_hdr_flag = 0
    · simp only [hflag, true_or, or_true, iff_true]
      obtain ⟨ccsds, hprint⟩ := pus_debug_print_header lut dir hdebug hpus hlen
      have hget : ecss_get_pkt_version (some pkt) = .ok 0xff := by
        rw [ecss_get_pkt_version, with_2nd_hdr_some hpos, if_pos hflag]
      rw [hprint, is_pkt_valid_plain hpos hversion hflag, hget]
      exact ⟨_, rfl⟩
    · rw [pus_debug_print_secondary_iff lut dir hdebug hpus hlen hversion hflag]
      simp only [hversion, hflag, ne_eq, not_true_eq_false, false_or]
  · simp only [hversion, ne_eq, not_false_eq_true, true_or, iff_true]
    obtain ⟨ccsds, hprint⟩ := pus_debug_print_header lut dir hdebug hpus hlen
    rw [hprint, is_pkt_valid_version hpos hversion]
    exact ⟨_, rfl⟩

/-- Telemetry of seven octets is read up to the end of a header it lacks. -/
theorem not_pus_debug_print_within :
    pus_debug_print ⟨true, true, false, true⟩ (fun _ _ => 0) "RX" [0x08, 0x01, 0xc0, 0x00, 0x00, 0x00, 0x20] 7 =
      .error (.access (.read 7)) := by
  decide

end spw_bridge.ecss
