import SpwBridge.Ecss.Setters
import SpwBridge.Net.Boundaries

open effect words

namespace spw_bridge.ecss

/-- The length of a packet as its length field gives it. -/
def declared_length (pkt : List UInt8) : Nat := 7 + (be16 (byteAt pkt 4) (byteAt pkt 5)).toNat

/-- The size of the headers of a packet's type. -/
def header_length (pkt : List UInt8) : Nat := (ecss_get_pkt_hdr_size (headerOf pkt).pkt_type.toNat).toNat

/-- The sizes that the functions report of the packet: the whole packet, the
rest behind the headers, and where that begins. -/
structure SizesAgree (pkt : List UInt8) : Prop where
  pkt_size : ∃ sz, ecss_get_pkt_size (some pkt) = .ok sz ∧ sz.toNat = declared_length pkt
  pld_size : ∃ sz, ecss_get_pld_size (some pkt) = .ok sz ∧
    sz.toNat = if header_length pkt ≤ declared_length pkt then declared_length pkt - header_length pkt else 0
  within : ∃ off sz, ecss_get_payload_offset (some pkt) = .ok off ∧ ecss_get_pld_size (some pkt) = .ok sz ∧
    off.toNat / 8 + sz.toNat ≤ declared_length pkt

section Valid

variable {pkt : List UInt8} (hpos : 0 < pkt.length)

include hpos

theorem is_pkt_valid_version (hversion : (headerOf pkt).pkt_version ≠ 0) :
    ecss_is_pkt_valid (some pkt) = .ok 0 := by
  rw [ecss_is_pkt_valid, get_pkt_version_ok hpos, bind_ok, if_pos hversion]

/-- Without a secondary header any packet of the version is valid. -/
theorem is_pkt_valid_plain (hversion : (headerOf pkt).pkt_version = 0) (hflag : (headerOf pkt).sec_hdr_flag = 0) :
    ecss_is_pkt_valid (some pkt) = .ok 1 := by
  rw [ecss_is_pkt_valid, get_pkt_version_ok hpos, bind_ok, if_neg (not_not_intro hversion),
    get_2nd_hdr_flag_ok hpos, bind_ok, if_neg (not_not_intro hflag)]

theorem is_pkt_valid_pus (hversion : (headerOf pkt).pkt_version = 0) (hflag : (headerOf pkt).sec_hdr_flag ≠ 0) :
    ecss_is_pkt_valid (some pkt) = (ecss_get_pkt_version (some pkt) >>= fun pus =>
      if ecss_pus_version_valid pus = 0 then .ok 0 else .ok 1) := by
  rw [ecss_is_pkt_valid, get_pkt_version_ok hpos, bind_ok, if_neg (not_not_intro hversion),
    get_2nd_hdr_flag_ok hpos, bind_ok, if_pos hflag]

theorem payload_offset_ok :
    ecss_get_payload_offset (some pkt) = .ok (ecss_get_pkt_hdr_size (headerOf pkt).pkt_type.toNat <<< 3) := by
  rw [ecss_get_payload_offset, if_neg (by simp), get_pkt_type_ok hpos, bind_ok]

end Valid

theorem pkt_size_ok {pkt : List UInt8} (hlen : 6 ≤ pkt.length) {valid : Int}
    (hvalid : ecss_is_pkt_valid (some pkt) = .ok valid) (haccepted : valid ≠ 0) :
    ecss_get_pkt_size (some pkt) = .ok (6 + (headerOf pkt).data_len.toUInt64) := by
  rw [ecss_get_pkt_size, hvalid, bind_ok, if_neg haccepted, get_data_len_ok hlen, bind_ok]
  rfl

theorem pld_size_ok {pkt : List UInt8} (hlen : 6 ≤ pkt.length) {valid : Int}
    (hvalid : ecss_is_pkt_valid (some pkt) = .ok valid) (haccepted : valid ≠ 0) :
    ecss_get_pld_size (some pkt) =
      .ok ((headerOf pkt).data_len.toUInt64 - ecss_get_pkt_2nd_hdr_size (headerOf pkt).pkt_type.toNat) := by
  rw [ecss_get_pld_size, hvalid, bind_ok, if_neg haccepted, get_data_len_ok hlen, bind_ok,
    get_pkt_type_ok (by omega), bind_ok]

/-- Adding one to the length field wraps at its upper end. -/
theorem data_len_toNat (pkt : List UInt8) :
    (headerOf pkt).data_len.toNat =
      if be16 (byteAt pkt 4) (byteAt pkt 5) = 0xffff then 0 else declared_length pkt - 6 := by
  have hlt := (be16 (byteAt pkt 4) (byteAt pkt 5)).toNat_lt
  have hadd : (headerOf pkt).data_len.toNat = ((be16 (byteAt pkt 4) (byteAt pkt 5)).toNat + 1) % 2 ^ 16 :=
    UInt16.toNat_add _ _
  rw [hadd, declared_length]
  split
  case isTrue h =>
    rw [h]
    rfl
  case isFalse h =>
    have hne : (be16 (byteAt pkt 4) (byteAt pkt 5)).toNat ≠ 65535 := by
      intro hmax
      apply h
      exact UInt16.toNat_inj.mp hmax
    omega

theorem header_length_tm {pkt : List UInt8} (htm : (headerOf pkt).pkt_type = SPP_PKT_TYPE_IS_TM) :
    header_length pkt = 19 := by
  rw [header_length, htm, hdr_size_tm]
  rfl

theorem header_length_tc {pkt : List UInt8} (htc : (headerOf pkt).pkt_type = SPP_PKT_TYPE_IS_TC) :
    header_length pkt = 11 := by
  rw [header_length, htc, hdr_size_tc]
  rfl

/-- The size of the headers of either type, and of the secondary header in it. -/
theorem header_length_cases (pkt : List UInt8) :
    (6 < header_length pkt ∧ header_length pkt < 20) ∧
      (ecss_get_pkt_2nd_hdr_size (headerOf pkt).pkt_type.toNat).toNat = header_length pkt - 6 ∧
      (ecss_get_pkt_hdr_size (headerOf pkt).pkt_type.toNat <<< 3).toNat = header_length pkt * 8 := by
  obtain htm | htc := pkt_type_cases pkt
  · rw [header_length_tm htm, htm]
    decide
  · rw [header_length_tc htc, htc]
    decide

/-- What the sizes of an accepted packet come to. -/
theorem pld_size_toNat {pkt : List UInt8} (hfield : be16 (byteAt pkt 4) (byteAt pkt 5) ≠ 0xffff) :
    ((headerOf pkt).data_len.toUInt64 - ecss_get_pkt_2nd_hdr_size (headerOf pkt).pkt_type.toNat).toNat =
      if header_length pkt ≤ declared_length pkt then declared_length pkt - header_length pkt
      else 2 ^ 64 - (header_length pkt - declared_length pkt) := by
  obtain ⟨⟨hlow, hhigh⟩, hsecond, _⟩ := header_length_cases pkt
  have hdata := data_len_toNat pkt
  rw [if_neg hfield] at hdata
  have hlt := (headerOf pkt).data_len.toNat_lt
  have hdeclared : 7 ≤ declared_length pkt := Nat.le_add_right 7 _
  rw [UInt64.toNat_sub, UInt16.toNat_toUInt64, hsecond, hdata]
  split <;> omega

theorem sizes_agree_iff {pkt : List UInt8} (hlen : 6 ≤ pkt.length) {valid : Int}
    (hvalid : ecss_is_pkt_valid (some pkt) = .ok valid) (haccepted : valid ≠ 0) :
    SizesAgree pkt ↔ be16 (byteAt pkt 4) (byteAt pkt 5) ≠ 0xffff ∧ header_length pkt ≤ declared_length pkt := by
  have hsize := pkt_size_ok hlen hvalid haccepted
  have hpld := pld_size_ok hlen hvalid haccepted
  have hoffset := payload_offset_ok (show 0 < pkt.length by omega)
  have hdata := data_len_toNat pkt
  have hlt := (headerOf pkt).data_len.toNat_lt
  have hsum : (6 + (headerOf pkt).data_len.toUInt64).toNat = 6 + (headerOf pkt).data_len.toNat := by
    rw [UInt64.toNat_add, UInt16.toNat_toUInt64]
    exact Nat.mod_eq_of_lt (by change 6 + _ < _; omega)
  have hdeclared : 7 ≤ declared_length pkt := Nat.le_add_right 7 _
  constructor
  · intro h
    have hfield : be16 (byteAt pkt 4) (byteAt pkt 5) ≠ 0xffff := by
      intro hmax
      obtain ⟨sz, hsz, htotal⟩ := h.pkt_size
      rw [hsize] at hsz
      cases hsz
      rw [hsum, hdata, if_pos hmax] at htotal
      omega
    refine ⟨hfield, ?_⟩
    by_contra hshort
    obtain ⟨sz, hsz, hzero⟩ := h.pld_size
    rw [hpld] at hsz
    cases hsz
    obtain ⟨⟨hlow, hhigh⟩, _⟩ := header_length_cases pkt
    rw [pld_size_toNat hfield, if_neg hshort, if_neg hshort] at hzero
    omega
  · rintro ⟨hfield, hroom⟩
    obtain ⟨_, _, hbits⟩ := header_length_cases pkt
    have hrest := pld_size_toNat hfield
    rw [if_pos hroom] at hrest
    refine ⟨⟨_, hsize, ?_⟩, ⟨_, hpld, ?_⟩, ⟨_, _, hoffset, hpld, ?_⟩⟩
    · rw [hsum, hdata, if_neg hfield]
      omega
    · rw [hrest, if_pos hroom]
    · rw [hrest, hbits]
      omega

variable {σ : Type} {sockfd : Nat}

/-- A packet of the framer is as long as its length field says, and the sizes
of a valid one agree with that, but for the largest length field and for packets
shorter than their headers. -/
theorem ecss_sizes_agree_iff (T : net.TcpStream σ sockfd) (id : SvcId) {w after : World σ} {pkt : List UInt8}
    (hframed : net.recv_pus_packet T.toEnv id sockfd w = .ok (some pkt) after) {valid : Int}
    (hvalid : ecss_is_pkt_valid (some pkt) = .ok valid) (haccepted : valid ≠ 0) :
    pkt.length = declared_length pkt ∧
      (SizesAgree pkt ↔
        be16 (byteAt pkt 4) (byteAt pkt 5) ≠ 0xffff ∧ header_length pkt ≤ declared_length pkt) := by
  have htakes := net.recv_pus_packet_takesFrame T id w
  rw [wp, hframed] at htakes
  obtain ⟨frame, hframe, _, rfl⟩ := htakes
  refine ⟨?_, sizes_agree_iff hframe.hdr_le_length hvalid haccepted⟩
  rw [← hframe, declared_length, Nat.add_comm]
  change (be16 (byteAt (pkt.take 6) 4) (byteAt (pkt.take 6) 5)).toNat + 7 = _
  rw [byteAt_take (by omega), byteAt_take (by omega)]

/-- A telecommand without data behind its headers. -/
theorem ecss_sizes_agree_iff_tc :
    SizesAgree [0x18, 0x01, 0xc0, 0x00, 0x00, 0x04, 0x20, 17, 1, 0, 0] ↔
      be16 0x00 0x04 ≠ 0xffff ∧ header_length [0x18, 0x01, 0xc0, 0x00, 0x00, 0x04, 0x20, 17, 1, 0, 0] ≤
        declared_length [0x18, 0x01, 0xc0, 0x00, 0x00, 0x04, 0x20, 17, 1, 0, 0] := by
  have hframed : ∃ after, net.recv_pus_packet (net.tcpStream 5 fun _ => none).toEnv .data 5
      (net.clientWorld [0x18, 0x01, 0xc0, 0x00, 0x00, 0x04, 0x20, 17, 1, 0, 0]) =
        .ok (some [0x18, 0x01, 0xc0, 0x00, 0x00, 0x04, 0x20, 17, 1, 0, 0]) after := ⟨_, rfl⟩
  obtain ⟨after, hframed⟩ := hframed
  have hvalid : ecss_is_pkt_valid (some [0x18, 0x01, 0xc0, 0x00, 0x00, 0x04, 0x20, 17, 1, 0, 0]) = .ok 1 := rfl
  exact (ecss_sizes_agree_iff (net.tcpStream 5 fun _ => none) .data hframed hvalid (by decide)).2

/-- A telemetry packet of seven octets, whose payload size is that of its
length field less 13. -/
theorem not_ecss_sizes_agree :
    (∃ after, net.recv_pus_packet (net.tcpStream 5 fun _ => none).toEnv .data 5
      (net.clientWorld [0x00, 0x01, 0xc0, 0x00, 0x00, 0x00, 0xaa]) =
        .ok (some [0x00, 0x01, 0xc0, 0x00, 0x00, 0x00, 0xaa]) after) ∧
      ecss_is_pkt_valid (some [0x00, 0x01, 0xc0, 0x00, 0x00, 0x00, 0xaa]) = .ok 1 ∧
      ¬ SizesAgree [0x00, 0x01, 0xc0, 0x00, 0x00, 0x00, 0xaa] := by
  have hvalid : ecss_is_pkt_valid (some [0x00, 0x01, 0xc0, 0x00, 0x00, 0x00, 0xaa]) = .ok 1 := rfl
  refine ⟨⟨_, rfl⟩, hvalid, ?_⟩
  rw [sizes_agree_iff (by decide) hvalid (by decide)]
  decide

end spw_bridge.ecss
