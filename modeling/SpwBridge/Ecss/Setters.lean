import SpwBridge.Ecss.Packet

open masks words

namespace spw_bridge.ecss

/-- The contents of a timestamp array. -/
abbrev TimeOctets := {ts : List UInt8 // ts.length = PUS_C_TM_TIME_OCTETS}

/-- One call of a setter of the secondary header with its argument. -/
inductive EcssSetter
  | pkt_version (v : UInt8)
  | sc_time_ref_status (ref : UInt8)
  | ack_flags (f : UInt8)
  | service_type (st : UInt8)
  | sub_service_type (sst : UInt8)
  | msg_type_cntr (tcntr : UInt16)
  | destination_id (dest_id : UInt16)
  | source_id (src_id : UInt16)
  | timestamp (ts : Option TimeOctets)

def EcssSetter.call (pkt : Pkt) : EcssSetter → Except Undef (Int × Pkt)
  | .pkt_version v => access (ecss_set_pkt_version pkt v)
  | .sc_time_ref_status ref => access (ecss_set_sc_time_ref_status pkt ref)
  | .ack_flags f => access (ecss_set_ack_flags pkt f)
  | .service_type st => access (ecss_set_service_type pkt st)
  | .sub_service_type sst => access (ecss_set_sub_service_type pkt sst)
  | .msg_type_cntr tcntr => access (ecss_set_msg_type_cntr pkt tcntr)
  | .destination_id dest_id => access (ecss_set_destination_id pkt dest_id)
  | .source_id src_id => access (ecss_set_source_id pkt src_id)
  | .timestamp ts => ecss_set_timestamp pkt (ts.map Subtype.val)

/-- The getter of the field returns the setter's argument. -/
def EcssSetter.ReadsBack (pkt : Pkt) : EcssSetter → Prop
  | .pkt_version v => ecss_get_pkt_version pkt = .ok v
  | .sc_time_ref_status ref => ecss_get_sc_time_ref_status pkt = .ok ref
  | .ack_flags f => ecss_get_ack_flags pkt = .ok f
  | .service_type st => ecss_get_service_type pkt = .ok st
  | .sub_service_type sst => ecss_get_sub_service_type pkt = .ok sst
  | .msg_type_cntr tcntr => ecss_get_msg_type_cntr pkt = .ok tcntr
  | .destination_id dest_id => ecss_get_destination_id pkt = .ok dest_id
  | .source_id src_id => ecss_get_source_id pkt = .ok src_id
  | .timestamp ts => ∀ out : TimeOctets, ecss_get_timestamp pkt (some out.val) = .ok (0, ts.map Subtype.val)

/-- The bits of the field in octet `i` of the secondary header. -/
def EcssSetter.field (setter : EcssSetter) (i : Nat) : UInt8 :=
  match setter with
  | .pkt_version _ => if i = 0 then 0xf0 else 0
  | .sc_time_ref_status _ => if i = 0 then 0x0f else 0
  | .ack_flags _ => if i = 0 then 0x0f else 0
  | .service_type _ => if i = 1 then 0xff else 0
  | .sub_service_type _ => if i = 2 then 0xff else 0
  | .msg_type_cntr _ => if 3 ≤ i ∧ i ≤ 4 then 0xff else 0
  | .destination_id _ => if 5 ≤ i ∧ i ≤ 6 then 0xff else 0
  | .source_id _ => if 3 ≤ i ∧ i ≤ 4 then 0xff else 0
  | .timestamp _ => if 7 ≤ i ∧ i ≤ 12 then 0xff else 0

/-- The bits of the field in octet `i` of the packet. -/
def EcssSetter.mask (setter : EcssSetter) (i : Nat) : UInt8 :=
  if i < SPP_PKT_HDR_LEN then 0 else setter.field (i - SPP_PKT_HDR_LEN)

/-- The packets that agree on all bits outside the field. -/
structure EcssSetter.SameOutside (setter : EcssSetter) (pkt after : List UInt8) : Prop where
  length : after.length = pkt.length
  bits : ∀ i, byteAt after i &&& ~~~setter.mask i = byteAt pkt i &&& ~~~setter.mask i

/-- The packet holds the headers of its type. -/
def HoldsHeader (pkt : List UInt8) : Prop :=
  ∃ t, ccsds_get_pkt_type (some pkt) = .ok t ∧ (ecss_get_pkt_hdr_size t.toNat).toNat ≤ pkt.length

/-- The call returns, and if it returns zero it has stored its argument and
nothing else. -/
def StoresAlone (pkt : List UInt8) (setter : EcssSetter) : Prop :=
  ∃ result after, setter.call (some pkt) = .ok (result, some after) ∧
    (result = 0 → setter.ReadsBack (some after) ∧ setter.SameOutside pkt after)

/-- A time reference status of more than four bits for a telemetry packet that
takes one. -/
def RefTooWide (pkt : List UInt8) : EcssSetter → Prop
  | .sc_time_ref_status ref => 16 ≤ ref ∧ ccsds_get_2nd_hdr_flag (some pkt) = .ok 1 ∧
      ccsds_get_pkt_type (some pkt) = .ok SPP_PKT_TYPE_IS_TM
  | _ => False

theorem pkt_type_cases (pkt : List UInt8) :
    (headerOf pkt).pkt_type = SPP_PKT_TYPE_IS_TM ∨ (headerOf pkt).pkt_type = SPP_PKT_TYPE_IS_TC := by
  change (byteAt pkt 0 &&& 0x10) >>> 4 = 0 ∨ (byteAt pkt 0 &&& 0x10) >>> 4 = 1
  generalize byteAt pkt 0 = b
  revert b
  apply forall_byte
  decide +kernel

theorem sec_hdr_flag_cases (pkt : List UInt8) :
    (headerOf pkt).sec_hdr_flag = 0 ∨ (headerOf pkt).sec_hdr_flag = 1 := by
  change (byteAt pkt 0 &&& 0x08) >>> 3 = 0 ∨ (byteAt pkt 0 &&& 0x08) >>> 3 = 1
  generalize byteAt pkt 0 = b
  revert b
  apply forall_byte
  decide +kernel

theorem hdr_size_tm : ecss_get_pkt_hdr_size SPP_PKT_TYPE_IS_TM.toNat = 19 := by decide

theorem hdr_size_tc : ecss_get_pkt_hdr_size SPP_PKT_TYPE_IS_TC.toNat = 11 := by decide

theorem HoldsHeader.nonempty {pkt : List UInt8} (h : HoldsHeader pkt) : 0 < pkt.length := by
  obtain ⟨t, ht, _⟩ := h
  cases pkt with
  | nil => cases ht
  | cons b pkt => exact Nat.succ_pos _

/-- The header sizes of the two types: 19 octets of telemetry, 11 of a
telecommand. -/
theorem HoldsHeader.length_tm {pkt : List UInt8} (h : HoldsHeader pkt)
    (htm : (headerOf pkt).pkt_type = SPP_PKT_TYPE_IS_TM) : 19 ≤ pkt.length := by
  have hpos := h.nonempty
  obtain ⟨t, ht, hsize⟩ := h
  rw [get_pkt_type_ok hpos, Except.ok.injEq] at ht
  rw [← ht, htm, hdr_size_tm] at hsize
  exact hsize

theorem HoldsHeader.length {pkt : List UInt8} (h : HoldsHeader pkt) : 11 ≤ pkt.length := by
  obtain htm | htc := pkt_type_cases pkt
  · have hlen := h.length_tm htm
    omega
  · have hpos := h.nonempty
    obtain ⟨t, ht, hsize⟩ := h
    rw [get_pkt_type_ok hpos, Except.ok.injEq] at ht
    rw [← ht, htc, hdr_size_tc] at hsize
    exact hsize

section Guards

variable {A : Type} {pkt : List UInt8} (hlen : 0 < pkt.length) (refused : A) (rest : Except Fault A)

include hlen

theorem with_2nd_hdr_some :
    with_2nd_hdr (some pkt) refused rest = if (headerOf pkt).sec_hdr_flag = 0 then .ok refused else rest := by
  rw [with_2nd_hdr, get_2nd_hdr_flag_ok hlen, bind_ok]

theorem with_pkt_type_some (type : UInt8) :
    with_pkt_type (some pkt) type refused rest =
      if (headerOf pkt).pkt_type ≠ type then .ok refused else rest := by
  rw [with_pkt_type, get_pkt_type_ok hlen, bind_ok]

end Guards

theorem rd_payload_ok {pkt : List UInt8} {off : Nat} (hoff : 6 + off < pkt.length) :
    rd_payload (some pkt) off = .ok (byteAt pkt (6 + off)) := rd_ok hoff

theorem rd_payload_outside {pkt : List UInt8} {off : Nat} (hoff : ¬ 6 + off < pkt.length) :
    rd_payload (some pkt) off = .error (.read (6 + off)) := if_neg hoff

theorem wr_payload_ok {pkt : List UInt8} {off : Nat} (hoff : 6 + off < pkt.length) (b : UInt8) :
    wr_payload (some pkt) off b = .ok (some (pkt.set (6 + off) b)) := by
  rw [wr_payload, SPP_PKT_HDR_LEN, wr_ok hoff]
  rfl

theorem set_payload_masked_ok {pkt : List UInt8} {off : Nat} (hoff : 6 + off < pkt.length) (mask bits : UInt8) :
    set_payload_masked (some pkt) off mask bits =
      .ok (0, some (pkt.set (6 + off) (put mask bits (byteAt pkt (6 + off))))) := by
  simp only [set_payload_masked, rd_payload_ok hoff, bind_ok, wr_payload_ok hoff]
  rfl

theorem set_payload_word_ok {pkt : List UInt8} {off : Nat} (hoff : 6 + (off + 1) < pkt.length) (word : UInt16) :
    set_payload_word (some pkt) off word =
      .ok (0, some ((pkt.set (6 + off) (word >>> 8).toUInt8).set (6 + (off + 1)) word.toUInt8)) := by
  have hfirst : 6 + off < pkt.length := by omega
  have hsecond : 6 + (off + 1) < (pkt.set (6 + off) (word >>> 8).toUInt8).length := by
    rw [List.length_set]
    exact hoff
  rw [set_payload_word, Nat.add_zero, byte_of_low, byte_of_low, wr_payload_ok hfirst, bind_ok,
    wr_payload_ok hsecond]
  rfl

theorem rd_payload_word_ok {pkt : List UInt8} {off : Nat} (hoff : 6 + (off + 1) < pkt.length) :
    rd_payload_word (some pkt) off = .ok (be16 (byteAt pkt (6 + off)) (byteAt pkt (6 + (off + 1)))) := by
  have hfirst : 6 + off < pkt.length := by omega
  rw [rd_payload_word, Nat.add_zero, rd_payload_ok hfirst, bind_ok, rd_payload_ok hoff, bind_ok, low_byte, low_byte]
  rfl

/-- Writes behind the primary header leave its fields alone. -/
theorem headerOf_set {pkt : List UInt8} {i : Nat} (hi : 6 ≤ i) (b : UInt8) :
    headerOf (pkt.set i b) = headerOf pkt := by
  have hkeep : ∀ k < 6, byteAt (pkt.set i b) k = byteAt pkt k := by
    intro k hk
    have hne : i ≠ k := by omega
    simp [byteAt, List.getD, hne]
  simp [headerOf, hkeep]

theorem EcssSetter.mask_header (setter : EcssSetter) (i : Nat) : setter.mask (6 + i) = setter.field i := by
  have hnot : ¬ 6 + i < SPP_PKT_HDR_LEN := by simp [SPP_PKT_HDR_LEN]
  rw [EcssSetter.mask, if_neg hnot, SPP_PKT_HDR_LEN, Nat.add_sub_cancel_left]

/-- A masked write into the field's octet. -/
theorem same_outside_masked {pkt : List UInt8} {setter : EcssSetter} {off : Nat} {mask bits : UInt8}
    (hoff : 6 + off < pkt.length) (hmask : setter.field off = mask) (hbits : bits &&& ~~~mask = 0) :
    setter.SameOutside pkt (pkt.set (6 + off) (put mask bits (byteAt pkt (6 + off)))) := by
  refine ⟨List.length_set, ?_⟩
  intro i
  rw [byteAt_set hoff]
  split
  case isTrue h =>
    rw [← h, setter.mask_header, hmask]
    apply put_and_other _ hbits
    exact UInt8.and_not_self
  case isFalse => rfl

/-- Writes of whole octets of the field. -/
theorem same_outside_octets {pkt after : List UInt8} {setter : EcssSetter} (hlen : after.length = pkt.length)
    (hoctets : ∀ i, setter.mask i = 0xff ∨ byteAt after i = byteAt pkt i) : setter.SameOutside pkt after := by
  refine ⟨hlen, ?_⟩
  intro i
  obtain hfield | hsame := hoctets i
  · rw [hfield]
    exact (UInt8.and_zero).trans (UInt8.and_zero).symm
  · rw [hsame]

theorem same_outside_octet {pkt : List UInt8} {setter : EcssSetter} {off : Nat} (hoff : 6 + off < pkt.length)
    (hmask : setter.field off = 0xff) (b : UInt8) : setter.SameOutside pkt (pkt.set (6 + off) b) := by
  apply same_outside_octets List.length_set
  intro i
  rw [byteAt_set hoff]
  split
  case isTrue h =>
    rw [← h, setter.mask_header]
    exact Or.inl hmask
  case isFalse => exact Or.inr rfl

theorem same_outside_word {pkt : List UInt8} {setter : EcssSetter} {off : Nat} (hoff : 6 + (off + 1) < pkt.length)
    (hfirst : setter.field off = 0xff) (hsecond : setter.field (off + 1) = 0xff) (hi lo : UInt8) :
    setter.SameOutside pkt ((pkt.set (6 + off) hi).set (6 + (off + 1)) lo) := by
  have hone : 6 + off < pkt.length := by omega
  have htwo : 6 + (off + 1) < (pkt.set (6 + off) hi).length := by
    rw [List.length_set]
    exact hoff
  apply same_outside_octets
  · rw [List.length_set, List.length_set]
  · intro i
    rw [byteAt_set htwo, byteAt_set hone]
    by_cases hi2 : 6 + (off + 1) = i
    · rw [← hi2, setter.mask_header]
      exact Or.inl hsecond
    · by_cases hi1 : 6 + off = i
      · rw [← hi1, setter.mask_header]
        exact Or.inl hfirst
      · rw [if_neg hi2, if_neg hi1]
        exact Or.inr rfl

section Getters

variable {pkt : List UInt8} (hflag : (headerOf pkt).sec_hdr_flag ≠ 0)

include hflag

theorem ecss_get_pkt_version_ok (hlen : 6 < pkt.length) :
    ecss_get_pkt_version (some pkt) = .ok ((byteAt pkt 6 &&& 0xf0) >>> 4) := by
  rw [ecss_get_pkt_version, with_2nd_hdr_some (by omega), if_neg hflag, PUS_ECSS_VER_OFFSET, rd_payload_ok hlen]
  rfl

theorem ecss_get_sc_time_ref_status_ok (htm : (headerOf pkt).pkt_type = SPP_PKT_TYPE_IS_TM) (hlen : 6 < pkt.length) :
    ecss_get_sc_time_ref_status (some pkt) = .ok (byteAt pkt 6 &&& 0x0f) := by
  rw [ecss_get_sc_time_ref_status, with_2nd_hdr_some (by omega), if_neg hflag, with_pkt_type_some (by omega),
    if_neg (not_not_intro htm), PUS_ECSS_TREF_OFFSET, rd_payload_ok hlen]
  exact congrArg Except.ok UInt8.shiftRight_zero

theorem ecss_get_ack_flags_ok (htc : (headerOf pkt).pkt_type = SPP_PKT_TYPE_IS_TC) (hlen : 6 < pkt.length) :
    ecss_get_ack_flags (some pkt) = .ok (byteAt pkt 6 &&& 0x0f) := by
  rw [ecss_get_ack_flags, with_2nd_hdr_some (by omega), if_neg hflag, with_pkt_type_some (by omega),
    if_neg (not_not_intro htc), PUS_ECSS_ACK_OFFSET, rd_payload_ok hlen]
  exact congrArg Except.ok UInt8.shiftRight_zero

theorem ecss_get_sub_service_type_ok (hlen : 8 < pkt.length) :
    ecss_get_sub_service_type (some pkt) = .ok (byteAt pkt 8) := by
  rw [ecss_get_sub_service_type, with_2nd_hdr_some (by omega), if_neg hflag, PUS_ECSS_SST_OFFSET, rd_payload_ok hlen]

theorem ecss_get_msg_type_cntr_ok (hversion : ecss_get_pkt_version (some pkt) = .ok PUS_C_VERSION)
    (htm : (headerOf pkt).pkt_type = SPP_PKT_TYPE_IS_TM) (hlen : 10 < pkt.length) :
    ecss_get_msg_type_cntr (some pkt) = .ok (be16 (byteAt pkt 9) (byteAt pkt 10)) := by
  rw [ecss_get_msg_type_cntr, with_2nd_hdr_some (by omega), if_neg hflag, hversion, bind_ok, if_neg (by simp),
    with_pkt_type_some (by omega), if_neg (not_not_intro htm), PUS_ECSS_TCNT_OFFSET, rd_payload_word_ok (by omega)]

theorem ecss_get_destination_id_ok (htm : (headerOf pkt).pkt_type = SPP_PKT_TYPE_IS_TM) (hlen : 12 < pkt.length) :
    ecss_get_destination_id (some pkt) = .ok (be16 (byteAt pkt 11) (byteAt pkt 12)) := by
  rw [ecss_get_destination_id, with_2nd_hdr_some (by omega), if_neg hflag, with_pkt_type_some (by omega),
    if_neg (not_not_intro htm), PUS_ECSS_DESTID_OFFSET, rd_payload_word_ok (by omega)]

theorem ecss_get_source_id_ok (htc : (headerOf pkt).pkt_type = SPP_PKT_TYPE_IS_TC) (hlen : 10 < pkt.length) :
    ecss_get_source_id (some pkt) = .ok (be16 (byteAt pkt 9) (byteAt pkt 10)) := by
  rw [ecss_get_source_id, with_2nd_hdr_some (by omega), if_neg hflag, with_pkt_type_some (by omega),
    if_neg (not_not_intro htc), PUS_ECSS_SRCID_OFFSET, rd_payload_word_ok (by omega)]

end Getters

theorem ecss_get_service_type_ok {pkt : List UInt8} (hlen : 7 < pkt.length) :
    ecss_get_service_type (some pkt) = .ok (byteAt pkt 7) := by
  rw [ecss_get_service_type, if_neg (by simp), PUS_ECSS_ST_OFFSET, rd_payload_ok hlen]

/-- A timestamp is a plain copy of six octets. -/
theorem ecss_get_timestamp_ok {pkt : List UInt8} (hflag : (headerOf pkt).sec_hdr_flag ≠ 0)
    (htm : (headerOf pkt).pkt_type = SPP_PKT_TYPE_IS_TM) (hlen : 19 ≤ pkt.length) (out : TimeOctets) :
    ecss_get_timestamp (some pkt) (some out.val) = .ok (0, some ((pkt.drop 13).take 6)) := by
  have hpos : 0 < pkt.length := by omega
  have hout : out.val.length = 6 := out.property
  have hcopy : copy_loop out.val 0 (pkt.drop 6) 7 6 = .ok ((pkt.drop 13).take 6) := by
    rw [copy_loop_ok (by omega) (by rw [List.length_drop]; omega), List.drop_drop]
    simp [hout]
  have hbits := bitcpy_octets out.val (pkt.drop 6) 0 7 6
  rw [hcopy] at hbits
  rw [ecss_get_timestamp, get_2nd_hdr_flag_ok hpos, access_ok, undef_bind_ok, if_neg hflag, if_neg (by simp),
    get_pkt_type_ok hpos, access_ok, undef_bind_ok, if_neg (not_not_intro htm)]
  change (bitcpy (some out.val) (0 * 8) (some (pkt.drop 6)) (7 * 8) (6 * 8) >>= _) = _
  rw [hbits]
  rfl

theorem stores_of_refused {pkt : List UInt8} {setter : EcssSetter} {result : Int}
    (hcall : setter.call (some pkt) = .ok (result, some pkt)) (hresult : result ≠ 0) : StoresAlone pkt setter :=
  ⟨result, pkt, hcall, fun h => absurd h hresult⟩

theorem stores_of_accepted {pkt after : List UInt8} {setter : EcssSetter}
    (hcall : setter.call (some pkt) = .ok (0, some after)) (hread : setter.ReadsBack (some after))
    (hsame : setter.SameOutside pkt after) : StoresAlone pkt setter :=
  ⟨0, after, hcall, fun _ => ⟨hread, hsame⟩⟩

section Refusals

variable {pkt : List UInt8} {setter : EcssSetter} {result : Int} {rest : Except Fault (Int × Pkt)}

/-- A setter that refuses packets without a secondary header, or of the other
type, or some arguments, is left to its remaining statements. -/
theorem stores_2nd_hdr (hlen : 0 < pkt.length)
    (hcall : setter.call (some pkt) = access (with_2nd_hdr (some pkt) (result, some pkt) rest))
    (hresult : result ≠ 0)
    (hrest : (headerOf pkt).sec_hdr_flag ≠ 0 → setter.call (some pkt) = access rest → StoresAlone pkt setter) :
    StoresAlone pkt setter := by
  rw [with_2nd_hdr_some hlen] at hcall
  by_cases hflag : (headerOf pkt).sec_hdr_flag = 0
  · rw [if_pos hflag] at hcall
    exact stores_of_refused hcall hresult
  · rw [if_neg hflag] at hcall
    exact hrest hflag hcall

theorem stores_pkt_type {type : UInt8} (hlen : 0 < pkt.length)
    (hcall : setter.call (some pkt) = access (with_pkt_type (some pkt) type (result, some pkt) rest))
    (hresult : result ≠ 0)
    (hrest : (headerOf pkt).pkt_type = type → setter.call (some pkt) = access rest → StoresAlone pkt setter) :
    StoresAlone pkt setter := by
  rw [with_pkt_type_some hlen] at hcall
  by_cases htype : (headerOf pkt).pkt_type = type
  · rw [if_neg (not_not_intro htype)] at hcall
    exact hrest htype hcall
  · rw [if_pos htype] at hcall
    exact stores_of_refused hcall hresult

theorem stores_unless {c : Prop} [Decidable c]
    (hcall : setter.call (some pkt) = access (if c then .ok (result, some pkt) else rest))
    (hresult : result ≠ 0) (hrest : ¬ c → setter.call (some pkt) = access rest → StoresAlone pkt setter) :
    StoresAlone pkt setter := by
  by_cases hc : c
  · rw [if_pos hc] at hcall
    exact stores_of_refused hcall hresult
  · rw [if_neg hc] at hcall
    exact hrest hc hcall

end Refusals

theorem refused_ne_zero : (-1 : Int) ≠ 0 := by decide

theorem refused_id_ne_zero : (65535 : Int) ≠ 0 := by decide

theorem pus_version_field {v : UInt8} (hv : ecss_pus_version_valid v ≠ 0) :
    (v <<< 4) &&& ~~~0xf0 = 0 ∧ (v <<< 4) >>> 4 = v := by
  revert v
  apply forall_byte
  decide +kernel

theorem low_nibble {f : UInt8} (hf : f < 16) : (f <<< 0) &&& ~~~0x0f = 0 ∧ f <<< 0 = f := by
  revert f
  apply forall_byte
  decide +kernel

theorem low_nibble_lt (b : UInt8) : b &&& 0x0f < 16 := by
  revert b
  apply forall_byte
  decide +kernel

theorem stores_pkt_version {pkt : List UInt8} (h : HoldsHeader pkt) (v : UInt8) :
    StoresAlone pkt (.pkt_version v) := by
  have hlen := h.length
  have hsix : 6 + 0 < pkt.length := by omega
  apply stores_2nd_hdr (by omega) rfl refused_ne_zero
  intro hflag hcall
  apply stores_unless hcall refused_ne_zero
  intro hv hcall
  rw [PUS_ECSS_VER_OFFSET, set_payload_masked_ok hsix] at hcall
  obtain ⟨hwithin, hback⟩ := pus_version_field hv
  apply stores_of_accepted hcall
  · have hread := @ecss_get_pkt_version_ok (pkt.set 6 (put 0xf0 (v <<< 4) (byteAt pkt 6)))
      (by rwa [headerOf_set (by omega)]) (by rw [List.length_set]; omega)
    rw [byteAt_set (by omega), if_pos rfl, put_and_same _ hwithin, hback] at hread
    exact hread
  · exact same_outside_masked hsix rfl hwithin

theorem stores_sc_time_ref_status {pkt : List UInt8} (h : HoldsHeader pkt) {ref : UInt8}
    (href : ¬ RefTooWide pkt (.sc_time_ref_status ref)) : StoresAlone pkt (.sc_time_ref_status ref) := by
  have hlen := h.length
  have hpos : 0 < pkt.length := by omega
  have hsix : 6 + 0 < pkt.length := by omega
  apply stores_2nd_hdr hpos rfl refused_ne_zero
  intro hflag hcall
  apply stores_pkt_type hpos hcall refused_ne_zero
  intro htm hcall
  rw [PUS_ECSS_TREF_OFFSET, set_payload_masked_ok hsix] at hcall
  have hnarrow : ref < 16 := by
    by_contra hwide
    apply href
    refine ⟨UInt8.not_lt.mp hwide, ?_, ?_⟩
    · rw [get_2nd_hdr_flag_ok hpos, (sec_hdr_flag_cases pkt).resolve_left hflag]
    · rw [get_pkt_type_ok hpos, htm]
  obtain ⟨hwithin, hback⟩ := low_nibble hnarrow
  apply stores_of_accepted hcall
  · have hread := @ecss_get_sc_time_ref_status_ok (pkt.set 6 (put 0x0f (ref <<< 0) (byteAt pkt 6)))
      (by rwa [headerOf_set (by omega)]) (by rwa [headerOf_set (by omega)]) (by rw [List.length_set]; omega)
    rw [byteAt_set (by omega), if_pos rfl, put_and_same _ hwithin] at hread
    exact hread.trans (congrArg Except.ok hback)
  · exact same_outside_masked hsix rfl hwithin

theorem ack_within {f : UInt8} (hf : ¬ f &&& ~~~PUS_ECSS_ACK_MASK ≠ 0) : f < 16 := by
  revert f
  apply forall_byte
  decide +kernel

theorem stores_ack_flags {pkt : List UInt8} (h : HoldsHeader pkt) (f : UInt8) : StoresAlone pkt (.ack_flags f) := by
  have hlen := h.length
  have hpos : 0 < pkt.length := by omega
  have hsix : 6 + 0 < pkt.length := by omega
  apply stores_2nd_hdr hpos rfl refused_ne_zero
  intro hflag hcall
  apply stores_pkt_type hpos hcall refused_ne_zero
  intro htc hcall
  apply stores_unless hcall refused_ne_zero
  intro hack hcall
  rw [PUS_ECSS_ACK_OFFSET, set_payload_masked_ok hsix] at hcall
  obtain ⟨hwithin, hback⟩ := low_nibble (ack_within hack)
  apply stores_of_accepted hcall
  · have hread := @ecss_get_ack_flags_ok (pkt.set 6 (put 0x0f (f <<< 0) (byteAt pkt 6)))
      (by rwa [headerOf_set (by omega)]) (by rwa [headerOf_set (by omega)]) (by rw [List.length_set]; omega)
    rw [byteAt_set (by omega), if_pos rfl, put_and_same _ hwithin] at hread
    exact hread.trans (congrArg Except.ok hback)
  · exact same_outside_masked hsix rfl hwithin

theorem stores_service_type {pkt : List UInt8} (h : HoldsHeader pkt) (st : UInt8) :
    StoresAlone pkt (.service_type st) := by
  have hlen := h.length
  have hseven : 6 + 1 < pkt.length := by omega
  apply stores_2nd_hdr (by omega) rfl refused_ne_zero
  intro hflag hcall
  apply stores_unless hcall refused_ne_zero
  intro hst hcall
  rw [PUS_ECSS_ST_OFFSET, wr_payload_ok hseven, bind_ok] at hcall
  apply stores_of_accepted hcall
  · have hread := @ecss_get_service_type_ok (pkt.set 7 st) (by rw [List.length_set]; omega)
    rw [byteAt_set (by omega), if_pos rfl] at hread
    exact hread
  · exact same_outside_octet hseven rfl st

theorem stores_sub_service_type {pkt : List UInt8} (h : HoldsHeader pkt) (sst : UInt8) :
    StoresAlone pkt (.sub_service_type sst) := by
  have hlen := h.length
  have height : 6 + 2 < pkt.length := by omega
  apply stores_2nd_hdr (by omega) rfl refused_ne_zero
  intro hflag hcall
  apply stores_unless hcall refused_ne_zero
  intro hsst hcall
  rw [PUS_ECSS_SST_OFFSET, wr_payload_ok height, bind_ok] at hcall
  apply stores_of_accepted hcall
  · have hread := @ecss_get_sub_service_type_ok (pkt.set 8 sst) (by rwa [headerOf_set (by omega)])
      (by rw [List.length_set]; omega)
    rw [byteAt_set (by omega), if_pos rfl] at hread
    exact hread
  · exact same_outside_octet height rfl sst

section Words

variable {pkt : List UInt8} {i : Nat} (word : UInt16)

/-- Both octets of a word, read behind its writing. -/
theorem word_written (hi : i + 1 < pkt.length) :
    be16 (byteAt ((pkt.set i (word >>> 8).toUInt8).set (i + 1) word.toUInt8) i)
      (byteAt ((pkt.set i (word >>> 8).toUInt8).set (i + 1) word.toUInt8) (i + 1)) = word := by
  have hfirst : i < pkt.length := by omega
  have hsecond : i + 1 < (pkt.set i (word >>> 8).toUInt8).length := by rwa [List.length_set]
  rw [byteAt_set hsecond, byteAt_set hsecond, byteAt_set hfirst, if_neg (by omega), if_pos rfl, if_pos rfl,
    be16_bytes]

/-- The primary header in front of it. -/
theorem word_header (hi : 6 ≤ i) :
    headerOf ((pkt.set i (word >>> 8).toUInt8).set (i + 1) word.toUInt8) = headerOf pkt := by
  rw [headerOf_set (by omega), headerOf_set hi]

end Words

theorem stores_msg_type_cntr {pkt : List UInt8} (h : HoldsHeader pkt) (tcntr : UInt16) :
    StoresAlone pkt (.msg_type_cntr tcntr) := by
  have hlen := h.length
  have hpos : 0 < pkt.length := by omega
  have hword : 6 + (3 + 1) < pkt.length := by omega
  apply stores_2nd_hdr hpos rfl refused_ne_zero
  intro hflag hcall
  rw [ecss_get_pkt_version_ok hflag (by omega), bind_ok] at hcall
  apply stores_unless hcall refused_ne_zero
  intro hversion hcall
  apply stores_pkt_type hpos hcall refused_ne_zero
  intro htm hcall
  rw [PUS_ECSS_TCNT_OFFSET, set_payload_word_ok hword] at hcall
  have hheader := @word_header pkt 9 tcntr (by omega)
  have hpus : byteAt ((pkt.set 9 (tcntr >>> 8).toUInt8).set 10 tcntr.toUInt8) 6 = byteAt pkt 6 := by
    rw [byteAt_set (by rw [List.length_set]; omega), byteAt_set (by omega), if_neg (by omega), if_neg (by omega)]
  apply stores_of_accepted hcall
  · have hread : ecss_get_pkt_version (some ((pkt.set 9 (tcntr >>> 8).toUInt8).set 10 tcntr.toUInt8)) =
        .ok PUS_C_VERSION := by
      rw [ecss_get_pkt_version_ok (by rwa [hheader]) (by simp; omega), hpus, not_not.mp hversion]
    have hcntr := ecss_get_msg_type_cntr_ok (by rwa [hheader]) hread (by rwa [hheader]) (by simp; omega)
    exact hcntr.trans (congrArg Except.ok (@word_written pkt 9 tcntr (by omega)))
  · exact same_outside_word hword rfl rfl _ _

theorem stores_destination_id {pkt : List UInt8} (h : HoldsHeader pkt) (dest_id : UInt16) :
    StoresAlone pkt (.destination_id dest_id) := by
  have hlen := h.length
  have hpos : 0 < pkt.length := by omega
  apply stores_2nd_hdr hpos rfl refused_id_ne_zero
  intro hflag hcall
  apply stores_pkt_type hpos hcall refused_id_ne_zero
  intro htm hcall
  have htmlen := h.length_tm htm
  have hword : 6 + (5 + 1) < pkt.length := by omega
  rw [PUS_ECSS_DESTID_OFFSET, set_payload_word_ok hword] at hcall
  have hheader := @word_header pkt 11 dest_id (by omega)
  apply stores_of_accepted hcall
  · have hread := ecss_get_destination_id_ok (by rwa [hheader]) (by rwa [hheader]) (by simp; omega)
    exact hread.trans (congrArg Except.ok (@word_written pkt 11 dest_id (by omega)))
  · exact same_outside_word hword rfl rfl _ _

theorem stores_source_id {pkt : List UInt8} (h : HoldsHeader pkt) (src_id : UInt16) :
    StoresAlone pkt (.source_id src_id) := by
  have hlen := h.length
  have hpos : 0 < pkt.length := by omega
  have hword : 6 + (3 + 1) < pkt.length := by omega
  apply stores_2nd_hdr hpos rfl refused_id_ne_zero
  intro hflag hcall
  apply stores_pkt_type hpos hcall refused_id_ne_zero
  intro htc hcall
  rw [PUS_ECSS_SRCID_OFFSET, set_payload_word_ok hword] at hcall
  have hheader := @word_header pkt 9 src_id (by omega)
  apply stores_of_accepted hcall
  · have hread := ecss_get_source_id_ok (by rwa [hheader]) (by rwa [hheader]) (by simp; omega)
    exact hread.trans (congrArg Except.ok (@word_written pkt 9 src_id (by omega)))
  · exact same_outside_word hword rfl rfl _ _

/-- The packet with the six octets of the timestamp replaced. -/
def stamped (pkt : List UInt8) (ts : TimeOctets) : List UInt8 := pkt.take 13 ++ ts.val ++ pkt.drop 19

section Stamped

variable {pkt : List UInt8} (hlen : 19 ≤ pkt.length) (ts : TimeOctets)

include hlen

theorem stamped_length : (stamped pkt ts).length = pkt.length := by
  have hts : ts.val.length = 6 := ts.property
  simp only [stamped, List.length_append, List.length_take, List.length_drop, hts]
  omega

theorem stamped_time : ((stamped pkt ts).drop 13).take 6 = ts.val := by
  have hts : ts.val.length = 6 := ts.property
  have htake : (pkt.take 13).length = 13 := by
    rw [List.length_take]
    omega
  rw [stamped, List.append_assoc, List.drop_append_of_le_length (by omega), List.drop_of_length_le (by omega),
    List.nil_append, List.take_append_of_le_length (by omega), List.take_of_length_le (by omega)]

theorem stamped_rest {i : Nat} (hi : i < 13 ∨ 19 ≤ i) : byteAt (stamped pkt ts) i = byteAt pkt i := by
  have hts : ts.val.length = 6 := ts.property
  have htake : (pkt.take 13).length = 13 := by
    rw [List.length_take]
    omega
  rw [stamped, List.append_assoc]
  obtain hbefore | hbehind := hi
  · rw [byteAt, List.getD_append _ _ _ _ (by omega)]
    exact byteAt_take hbefore
  · rw [byteAt, List.getD_append_right _ _ _ _ (by omega), List.getD_append_right _ _ _ _ (by omega), htake, hts]
    simp only [byteAt, List.getD, List.getElem?_drop]
    congr 2
    omega

theorem stamped_header : headerOf (stamped pkt ts) = headerOf pkt := by
  have hkeep : ∀ k < 6, byteAt (stamped pkt ts) k = byteAt pkt k := by
    intro k hk
    exact stamped_rest hlen ts (Or.inl (by omega))
  simp [headerOf, hkeep]

theorem ecss_set_timestamp_ok (hflag : (headerOf pkt).sec_hdr_flag ≠ 0)
    (htm : (headerOf pkt).pkt_type = SPP_PKT_TYPE_IS_TM) :
    ecss_set_timestamp (some pkt) (some ts.val) = .ok (0, some (stamped pkt ts)) := by
  have hpos : 0 < pkt.length := by omega
  have hts : ts.val.length = 6 := ts.property
  have hcopy : copy_loop (pkt.drop 6) 7 ts.val 0 6 = .ok ((pkt.drop 6).take 7 ++ ts.val ++ pkt.drop 19) := by
    rw [copy_loop_ok (by rw [List.length_drop]; omega) (by omega), List.drop_drop]
    simp [hts]
  have hbits := bitcpy_octets (pkt.drop 6) ts.val 7 0 6
  rw [hcopy, access_ok, undef_bind_ok] at hbits
  have hpayload : pkt.take 6 ++ ((pkt.drop 6).take 7 ++ ts.val ++ pkt.drop 19) = stamped pkt ts := by
    rw [← List.append_assoc, ← List.append_assoc, ← List.take_add]
    rfl
  rw [ecss_set_timestamp, get_2nd_hdr_flag_ok hpos, access_ok, undef_bind_ok, if_neg hflag, if_neg (by simp),
    get_pkt_type_ok hpos, access_ok, undef_bind_ok, if_neg (not_not_intro htm)]
  change (bitcpy (some (pkt.drop 6)) (7 * 8) (some ts.val) (0 * 8) (6 * 8) >>= _) = _
  rw [hbits, undef_bind_ok]
  exact congrArg (fun after => Except.ok ((0 : Int), some after)) hpayload

end Stamped

theorem stores_timestamp {pkt : List UInt8} (h : HoldsHeader pkt) (ts : Option TimeOctets) :
    StoresAlone pkt (.timestamp ts) := by
  have hlen := h.length
  have hpos : 0 < pkt.length := by omega
  have hcall : EcssSetter.call (some pkt) (.timestamp ts) = ecss_set_timestamp (some pkt) (ts.map Subtype.val) := rfl
  rw [ecss_set_timestamp, get_2nd_hdr_flag_ok hpos, access_ok, undef_bind_ok] at hcall
  by_cases hflag : (headerOf pkt).sec_hdr_flag = 0
  · rw [if_pos hflag] at hcall
    exact stores_of_refused hcall refused_ne_zero
  rw [if_neg hflag] at hcall
  cases ts with
  | none => exact stores_of_refused hcall refused_ne_zero
  | some ts =>
    by_cases htm : (headerOf pkt).pkt_type = SPP_PKT_TYPE_IS_TM
    · have htmlen := h.length_tm htm
      have hstored : EcssSetter.call (some pkt) (.timestamp (some ts)) = .ok (0, some (stamped pkt ts)) :=
        ecss_set_timestamp_ok htmlen ts hflag htm
      apply stores_of_accepted hstored
      · intro out
        have hread := ecss_get_timestamp_ok (by rwa [stamped_header htmlen ts])
          (by rwa [stamped_header htmlen ts]) (by rwa [stamped_length htmlen ts]) out
        rw [stamped_time htmlen ts] at hread
        exact hread
      · apply same_outside_octets (stamped_length htmlen ts)
        intro i
        by_cases hi : 13 ≤ i ∧ i < 19
        · obtain ⟨k, rfl⟩ := Nat.exists_eq_add_of_le hi.1
          have hfield : 7 ≤ 7 + k ∧ 7 + k ≤ 12 := by omega
          rw [show 13 + k = 6 + (7 + k) by omega, EcssSetter.mask_header]
          exact Or.inl (if_pos hfield)
        · exact Or.inr (stamped_rest htmlen ts (by omega))
    · rw [Option.map_some, if_neg (by simp), get_pkt_type_ok hpos, access_ok, undef_bind_ok, if_pos htm] at hcall
      exact stores_of_refused hcall refused_ne_zero

/-- A status that does not fit its field comes back without its upper bits. -/
theorem not_stores_too_wide {pkt : List UInt8} (h : HoldsHeader pkt) {setter : EcssSetter}
    (hwide : RefTooWide pkt setter) : ¬ StoresAlone pkt setter := by
  cases setter with
  | sc_time_ref_status ref =>
    obtain ⟨hrange, hflag, htm⟩ := hwide
    have hlen := h.length
    have hpos : 0 < pkt.length := by omega
    have hsix : 6 + 0 < pkt.length := by omega
    rw [get_2nd_hdr_flag_ok hpos, Except.ok.injEq] at hflag
    rw [get_pkt_type_ok hpos, Except.ok.injEq] at htm
    have hset : (headerOf pkt).sec_hdr_flag ≠ 0 := by simp [hflag]
    have hcall : EcssSetter.call (some pkt) (.sc_time_ref_status ref) =
      access (with_2nd_hdr (some pkt) (-1, some pkt) _) := rfl
    rw [with_2nd_hdr_some hpos, if_neg hset, with_pkt_type_some hpos, if_neg (not_not_intro htm),
      PUS_ECSS_TREF_OFFSET, set_payload_masked_ok hsix] at hcall
    rintro ⟨result, after, hreturn, hstored⟩
    rw [hcall, access_ok] at hreturn
    cases hreturn
    obtain ⟨hread, -⟩ := hstored rfl
    have hget := @ecss_get_sc_time_ref_status_ok (pkt.set 6 (put 0x0f (ref <<< 0) (byteAt pkt 6)))
      (by rwa [headerOf_set (by omega)]) (by rwa [headerOf_set (by omega)]) (by rw [List.length_set]; omega)
    have hback := Except.ok.inj (hget.symm.trans hread)
    have hlow := low_nibble_lt (byteAt (pkt.set 6 (put 0x0f (ref <<< 0) (byteAt pkt 6))) 6)
    rw [hback] at hlow
    exact UInt8.not_le.mpr hlow hrange
  | _ => exact hwide.elim

/-- Every accepted setter call stores its argument and nothing else, but for
the time reference status, whose setter takes arguments that its field cannot
hold. -/
theorem ecss_setters_store_iff {pkt : List UInt8} (h : HoldsHeader pkt) (setter : EcssSetter) :
    StoresAlone pkt setter ↔ ¬ RefTooWide pkt setter := by
  constructor
  · intro hstores hwide
    exact not_stores_too_wide h hwide hstores
  · intro hnarrow
    cases setter with
    | pkt_version v => exact stores_pkt_version h v
    | sc_time_ref_status ref => exact stores_sc_time_ref_status h hnarrow
    | ack_flags f => exact stores_ack_flags h f
    | service_type st => exact stores_service_type h st
    | sub_service_type sst => exact stores_sub_service_type h sst
    | msg_type_cntr tcntr => exact stores_msg_type_cntr h tcntr
    | destination_id dest_id => exact stores_destination_id h dest_id
    | source_id src_id => exact stores_source_id h src_id
    | timestamp ts => exact stores_timestamp h ts

/-- A telecommand's own fields are stored as well. -/
theorem ecss_setters_store_iff_tc :
    StoresAlone [0x18, 1, 0xc0, 0, 0, 4, 0x20, 17, 1, 0, 0] (.ack_flags 9) ↔
      ¬ RefTooWide [0x18, 1, 0xc0, 0, 0, 4, 0x20, 17, 1, 0, 0] (.ack_flags 9) :=
  ecss_setters_store_iff ⟨1, rfl, by decide⟩ (.ack_flags 9)

/-- A status of 0x1f turns packet version 2 into 3. -/
theorem not_ecss_setters_store :
    HoldsHeader [0x08, 1, 0xc0, 0, 0, 12, 0x20, 1, 1, 0, 0, 0, 0, 0, 0, 0, 0, 0, 0] ∧
      ¬ StoresAlone [0x08, 1, 0xc0, 0, 0, 12, 0x20, 1, 1, 0, 0, 0, 0, 0, 0, 0, 0, 0, 0] (.sc_time_ref_status 0x1f) := by
  have hheader : HoldsHeader [0x08, 1, 0xc0, 0, 0, 12, 0x20, 1, 1, 0, 0, 0, 0, 0, 0, 0, 0, 0, 0] :=
    ⟨0, rfl, by decide⟩
  refine ⟨hheader, ?_⟩
  apply not_stores_too_wide hheader
  exact ⟨by decide, rfl, rfl⟩

end spw_bridge.ecss
