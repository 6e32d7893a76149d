import SpwBridge.Ecss.Setters

open masks words

namespace spw_bridge.ecss

/-- A setter call on the packet is reported: it touches nothing through a null
pointer, its result is zero or negative, a result other than zero leaves the
packet alone, and there is a result unless the packet is shorter than its
headers. -/
structure Reports (pkt : Pkt) (call : Except Undef (Int × Pkt)) : Prop where
  no_null : call ≠ .error (.access .null)
  result : ∀ {result after}, call = .ok (result, after) → result = 0 ∨ result < 0
  unchanged : ∀ {result after}, call = .ok (result, after) → result ≠ 0 → after = pkt
  returns : (∀ buf, pkt = some buf → HoldsHeader buf) → ∃ result after, call = .ok (result, after)

/-- The packet lacks a secondary header or is of another type. -/
def NotOfType (pkt : Pkt) (type : UInt8) : Prop :=
  ccsds_get_2nd_hdr_flag pkt = .ok 0 ∨ ∃ t, ccsds_get_pkt_type pkt = .ok t ∧ t ≠ type

/-- The calls that are not reported: those that use a null packet, and the
refusals of the two identifiers. -/
def Unreported (pkt : Pkt) : EcssSetter → Prop
  | .pkt_version v => pkt = none ∧ ecss_pus_version_valid v ≠ 0
  | .sub_service_type sst => pkt = none ∧ sst ≠ 0
  | .msg_type_cntr _ => pkt = none
  | .destination_id _ => NotOfType pkt SPP_PKT_TYPE_IS_TM
  | .source_id _ => NotOfType pkt SPP_PKT_TYPE_IS_TC
  | _ => False

theorem reports_accepted (pkt after : Pkt) : Reports pkt (.ok (0, after)) where
  no_null := by simp
  result h := by
    cases h
    exact Or.inl rfl
  unchanged h hresult := by
    cases h
    exact absurd rfl hresult
  returns _ := ⟨0, after, rfl⟩

theorem reports_refused (pkt : Pkt) : Reports pkt (.ok (-1, pkt)) where
  no_null := by simp
  result h := by
    cases h
    exact Or.inr (by decide)
  unchanged h _ := by
    cases h
    rfl
  returns _ := ⟨-1, pkt, rfl⟩

/-- An access outside a packet that is too short for its headers. -/
theorem reports_outside {buf : List UInt8} {fault : Fault} (hfault : fault ≠ .null) (hshort : ¬ HoldsHeader buf) :
    Reports (some buf) (.error (.access fault)) where
  no_null := by simp [hfault]
  result h := by cases h
  unchanged h := by cases h
  returns h := absurd (h buf rfl) hshort

/-- A packet without any octet. -/
theorem reports_empty {buf : List UInt8} (hempty : ¬ 0 < buf.length) {call : Except Undef (Int × Pkt)}
    (hcall : buf = [] → call = .error (.access (.read 0))) : Reports (some buf) call := by
  rw [hcall (List.length_eq_zero_iff.mp (by omega))]
  apply reports_outside (by simp)
  intro h
  exact hempty h.nonempty

theorem not_reports_null {pkt : Pkt} : ¬ Reports pkt (.error (.access .null)) := fun h => h.no_null rfl

theorem not_reports_wide {pkt after : Pkt} : ¬ Reports pkt (.ok (65535, after)) := by
  intro h
  obtain hzero | hneg := h.result rfl
  · exact absurd hzero (by decide)
  · exact absurd hneg (by decide)

section Guards

variable {buf : List UInt8} {rest : Except Fault (Int × Pkt)}

theorem reports_2nd_hdr (refused : Int × Pkt)
    (hrefused : ccsds_get_2nd_hdr_flag (some buf) = .ok 0 → Reports (some buf) (.ok refused))
    (hrest : Reports (some buf) (access rest)) :
    Reports (some buf) (access (with_2nd_hdr (some buf) refused rest)) := by
  by_cases hpos : 0 < buf.length
  · have hget := get_2nd_hdr_flag_ok hpos
    rw [with_2nd_hdr_some hpos]
    by_cases hflag : (headerOf buf).sec_hdr_flag = 0
    · rw [if_pos hflag]
      rw [hflag] at hget
      exact hrefused hget
    · rw [if_neg hflag]
      exact hrest
  · apply reports_empty hpos
    rintro rfl
    rfl

theorem reports_pkt_type {type : UInt8} (refused : Int × Pkt)
    (hrefused : (∃ t, ccsds_get_pkt_type (some buf) = .ok t ∧ t ≠ type) → Reports (some buf) (.ok refused))
    (hrest : (headerOf buf).pkt_type = type → Reports (some buf) (access rest)) :
    Reports (some buf) (access (with_pkt_type (some buf) type refused rest)) := by
  by_cases hpos : 0 < buf.length
  · rw [with_pkt_type_some hpos]
    by_cases htype : (headerOf buf).pkt_type ≠ type
    · rw [if_pos htype]
      exact hrefused ⟨_, get_pkt_type_ok hpos, htype⟩
    · rw [if_neg htype]
      exact hrest (not_not.mp htype)
  · apply reports_empty hpos
    rintro rfl
    rfl

theorem reports_ite {c : Prop} [Decidable c] (hrest : Reports (some buf) (access rest)) :
    Reports (some buf) (access (if c then .ok (-1, some buf) else rest)) := by
  split
  case isTrue => exact reports_refused _
  case isFalse => exact hrest

end Guards

section Writes

variable {buf : List UInt8} {off : Nat}

theorem wr_payload_outside (hoff : ¬ 6 + off < buf.length) (b : UInt8) :
    wr_payload (some buf) off b = .error (.write (6 + off)) := by
  rw [wr_payload, SPP_PKT_HDR_LEN, wr, if_neg hoff]
  rfl

theorem reports_masked (hroom : HoldsHeader buf → 6 + off < buf.length) (mask bits : UInt8) :
    Reports (some buf) (access (set_payload_masked (some buf) off mask bits)) := by
  by_cases hoff : 6 + off < buf.length
  · rw [set_payload_masked_ok hoff]
    exact reports_accepted _ _
  · rw [set_payload_masked, rd_payload_outside hoff]
    apply reports_outside (by simp)
    exact fun h => hoff (hroom h)

theorem reports_octet (hroom : HoldsHeader buf → 6 + off < buf.length) (b : UInt8) :
    Reports (some buf) (access (wr_payload (some buf) off b >>= fun pkt => .ok (0, pkt))) := by
  by_cases hoff : 6 + off < buf.length
  · rw [wr_payload_ok hoff]
    exact reports_accepted _ _
  · rw [wr_payload_outside hoff]
    apply reports_outside (by simp)
    exact fun h => hoff (hroom h)

theorem reports_word (hroom : HoldsHeader buf → 6 + (off + 1) < buf.length) (word : UInt16) :
    Reports (some buf) (access (set_payload_word (some buf) off word)) := by
  by_cases hoff : 6 + (off + 1) < buf.length
  · rw [set_payload_word_ok hoff]
    exact reports_accepted _ _
  · have hshort : ¬ HoldsHeader buf := fun h => hoff (hroom h)
    rw [set_payload_word, Nat.add_zero]
    by_cases hfirst : 6 + off < buf.length
    · have hsecond : ¬ 6 + (off + 1) < (buf.set (6 + off) ((word >>> 8) &&& 0xff).toUInt8).length := by
        rwa [List.length_set]
      rw [wr_payload_ok hfirst, bind_ok, wr_payload_outside hsecond]
      exact reports_outside (by simp) hshort
    · rw [wr_payload_outside hfirst]
      exact reports_outside (by simp) hshort

end Writes

section Setters

variable {buf : List UInt8}

theorem reports_pus_version {rest : Except Fault (Int × Pkt)} (hrest : Reports (some buf) (access rest)) :
    Reports (some buf) (access (ecss_get_pkt_version (some buf) >>= fun version =>
      if version ≠ PUS_C_VERSION then .ok (-1, some buf) else rest)) := by
  by_cases hpos : 0 < buf.length
  · rw [ecss_get_pkt_version, with_2nd_hdr_some hpos]
    by_cases hflag : (headerOf buf).sec_hdr_flag = 0
    · rw [if_pos hflag, bind_ok]
      exact reports_ite hrest
    · rw [if_neg hflag, PUS_ECSS_VER_OFFSET]
      by_cases hoff : 6 + 0 < buf.length
      · rw [rd_payload_ok hoff, bind_ok, bind_ok]
        exact reports_ite hrest
      · rw [rd_payload_outside hoff]
        apply reports_outside (by simp)
        intro h
        have hlen := h.length
        omega
  · apply reports_empty hpos
    rintro rfl
    rfl

theorem reports_set_pkt_version (v : UInt8) : Reports (some buf) (access (ecss_set_pkt_version (some buf) v)) := by
  apply reports_2nd_hdr
  · exact fun _ => reports_refused _
  · apply reports_ite
    apply reports_masked
    intro h
    have hlen := h.length
    simp only [PUS_ECSS_VER_OFFSET]
    omega

theorem reports_set_sc_time_ref_status (ref : UInt8) :
    Reports (some buf) (access (ecss_set_sc_time_ref_status (some buf) ref)) := by
  apply reports_2nd_hdr
  · exact fun _ => reports_refused _
  · apply reports_pkt_type
    · exact fun _ => reports_refused _
    · intro _
      apply reports_masked
      intro h
      have hlen := h.length
      simp only [PUS_ECSS_TREF_OFFSET]
      omega

theorem reports_set_ack_flags (f : UInt8) : Reports (some buf) (access (ecss_set_ack_flags (some buf) f)) := by
  apply reports_2nd_hdr
  · exact fun _ => reports_refused _
  · apply reports_pkt_type
    · exact fun _ => reports_refused _
    · intro _
      apply reports_ite
      apply reports_masked
      intro h
      have hlen := h.length
      simp only [PUS_ECSS_ACK_OFFSET]
      omega

theorem reports_set_service_type (st : UInt8) :
    Reports (some buf) (access (ecss_set_service_type (some buf) st)) := by
  rw [ecss_set_service_type, if_neg (by simp)]
  apply reports_2nd_hdr
  · exact fun _ => reports_refused _
  · apply reports_ite
    apply reports_octet
    intro h
    have hlen := h.length
    simp only [PUS_ECSS_ST_OFFSET]
    omega

theorem reports_set_sub_service_type (sst : UInt8) :
    Reports (some buf) (access (ecss_set_sub_service_type (some buf) sst)) := by
  apply reports_2nd_hdr
  · exact fun _ => reports_refused _
  · apply reports_ite
    apply reports_octet
    intro h
    have hlen := h.length
    simp only [PUS_ECSS_SST_OFFSET]
    omega

theorem reports_set_msg_type_cntr (tcntr : UInt16) :
    Reports (some buf) (access (ecss_set_msg_type_cntr (some buf) tcntr)) := by
  apply reports_2nd_hdr
  · exact fun _ => reports_refused _
  · apply reports_pus_version
    apply reports_pkt_type
    · exact fun _ => reports_refused _
    · intro _
      apply reports_word
      intro h
      have hlen := h.length
      simp only [PUS_ECSS_TCNT_OFFSET]
      omega

theorem reports_set_destination_id (htype : ¬ NotOfType (some buf) SPP_PKT_TYPE_IS_TM) (dest_id : UInt16) :
    Reports (some buf) (access (ecss_set_destination_id (some buf) dest_id)) := by
  apply reports_2nd_hdr
  · exact fun hflag => absurd (Or.inl hflag) htype
  · apply reports_pkt_type
    · exact fun hother => absurd (Or.inr hother) htype
    · intro htm
      apply reports_word
      intro h
      have hlen := h.length_tm htm
      simp only [PUS_ECSS_DESTID_OFFSET]
      omega

theorem reports_set_source_id (htype : ¬ NotOfType (some buf) SPP_PKT_TYPE_IS_TC) (src_id : UInt16) :
    Reports (some buf) (access (ecss_set_source_id (some buf) src_id)) := by
  apply reports_2nd_hdr
  · exact fun hflag => absurd (Or.inl hflag) htype
  · apply reports_pkt_type
    · exact fun hother => absurd (Or.inr hother) htype
    · intro _
      apply reports_word
      intro h
      have hlen := h.length
      simp only [PUS_ECSS_SRCID_OFFSET]
      omega

/-- A copy between two arrays meets no null pointer. -/
theorem copy_loop_not_null (dst src : List UInt8) (doff soff n : Nat) :
    copy_loop dst doff src soff n ≠ .error .null := by
  induction n generalizing dst doff soff with
  | zero => simp [copy_loop]
  | succ n ih =>
    by_cases hsrc : soff < src.length
    · by_cases hdst : doff < dst.length
      · rw [copy_loop, rd_ok hsrc, bind_ok, wr, if_pos hdst, bind_ok]
        apply ih
      · rw [copy_loop, rd_ok hsrc, bind_ok, wr, if_neg hdst]
        simp
    · rw [copy_loop, rd, if_neg hsrc]
      simp

theorem reports_set_timestamp (ts : Option TimeOctets) :
    Reports (some buf) (ecss_set_timestamp (some buf) (ts.map Subtype.val)) := by
  by_cases hpos : 0 < buf.length
  · rw [ecss_set_timestamp, get_2nd_hdr_flag_ok hpos, access_ok, undef_bind_ok]
    by_cases hflag : (headerOf buf).sec_hdr_flag = 0
    · rw [if_pos hflag]
      exact reports_refused _
    rw [if_neg hflag]
    cases ts with
    | none => exact reports_refused _
    | some ts =>
      rw [Option.map_some, if_neg (by simp), get_pkt_type_ok hpos, access_ok, undef_bind_ok]
      by_cases htm : (headerOf buf).pkt_type ≠ SPP_PKT_TYPE_IS_TM
      · rw [if_pos htm]
        exact reports_refused _
      · rw [if_neg htm]
        change Reports _ (bitcpy (some (buf.drop 6)) (7 * 8) (some ts.val) (0 * 8) (6 * 8) >>= _)
        rw [bitcpy_octets]
        have hnull := copy_loop_not_null (buf.drop 6) ts.val 7 0 6
        cases hcopy : copy_loop (buf.drop 6) 7 ts.val 0 6 with
        | ok copied => exact reports_accepted _ _
        | error fault =>
          rw [hcopy] at hnull
          apply reports_outside (fun h => hnull (congrArg Except.error h))
          intro h
          have hts : ts.val.length = 6 := ts.property
          have hlen := h.length_tm (not_not.mp htm)
          rw [copy_loop_ok (by rw [List.length_drop]; omega) (by omega)] at hcopy
          cases hcopy
  · apply reports_empty hpos
    rintro rfl
    rfl

end Setters

/-- The calls on a packet. -/
theorem reports_call {buf : List UInt8} {setter : EcssSetter} (h : ¬ Unreported (some buf) setter) :
    Reports (some buf) (setter.call (some buf)) := by
  cases setter with
  | pkt_version v => exact reports_set_pkt_version v
  | sc_time_ref_status ref => exact reports_set_sc_time_ref_status ref
  | ack_flags f => exact reports_set_ack_flags f
  | service_type st => exact reports_set_service_type st
  | sub_service_type sst => exact reports_set_sub_service_type sst
  | msg_type_cntr tcntr => exact reports_set_msg_type_cntr tcntr
  | destination_id dest_id => exact reports_set_destination_id h dest_id
  | source_id src_id => exact reports_set_source_id h src_id
  | timestamp ts => exact reports_set_timestamp ts

/-- The getters take a null packet for one with a secondary header and of
neither type. -/
theorem not_of_type_null (type : UInt8) (htype : type ≠ 0xff) : NotOfType none type :=
  Or.inr ⟨0xff, rfl, htype.symm⟩

/-- The calls on the null packet. -/
theorem reports_call_null {setter : EcssSetter} (h : ¬ Unreported none setter) :
    Reports none (setter.call none) := by
  cases setter with
  | pkt_version v =>
    have hv : ecss_pus_version_valid v = 0 := by
      by_contra hvalid
      exact h ⟨rfl, hvalid⟩
    have hcall : EcssSetter.call none (.pkt_version v) =
      access (if ecss_pus_version_valid v = 0 then .ok (-1, none) else _) := rfl
    rw [hcall, if_pos hv]
    exact reports_refused none
  | sc_time_ref_status ref => exact reports_refused none
  | ack_flags f => exact reports_refused none
  | service_type st => exact reports_refused none
  | sub_service_type sst =>
    have hsst : sst = 0 := by
      by_contra hvalid
      exact h ⟨rfl, hvalid⟩
    subst hsst
    exact reports_refused none
  | msg_type_cntr tcntr => exact absurd rfl h
  | destination_id dest_id => exact absurd (not_of_type_null _ (by decide)) h
  | source_id src_id => exact absurd (not_of_type_null _ (by decide)) h
  | timestamp ts =>
    cases ts with
    | none => exact reports_refused none
    | some ts => exact reports_refused none

/-- An identifier that is refused returns a positive number. -/
theorem refused_wide {pkt : Pkt} {type : UInt8} (h : NotOfType pkt type) (rest : Except Fault (Int × Pkt)) :
    ¬ Reports pkt (access (with_2nd_hdr pkt (65535, pkt) (with_pkt_type pkt type (65535, pkt) rest))) := by
  obtain hflag | ⟨t, ht, hother⟩ := h
  · rw [with_2nd_hdr, hflag, bind_ok, if_pos rfl]
    exact not_reports_wide
  · cases pkt with
    | none =>
      change ¬ Reports none (access (with_pkt_type none type (65535, none) rest))
      rw [with_pkt_type, ht, bind_ok, if_pos hother]
      exact not_reports_wide
    | some buf =>
      have hpos : 0 < buf.length := by
        by_contra hempty
        have hnil : buf = [] := List.length_eq_zero_iff.mp (by omega)
        subst hnil
        cases ht
      rw [with_2nd_hdr_some hpos]
      split
      case isTrue => exact not_reports_wide
      case isFalse =>
        rw [with_pkt_type, ht, bind_ok, if_pos hother]
        exact not_reports_wide

theorem not_reports_unreported {pkt : Pkt} {setter : EcssSetter} (h : Unreported pkt setter) :
    ¬ Reports pkt (setter.call pkt) := by
  cases setter with
  | pkt_version v =>
    obtain ⟨rfl, hv⟩ := h
    have hcall : EcssSetter.call none (.pkt_version v) =
      access (if ecss_pus_version_valid v = 0 then .ok (-1, none) else .error .null) := rfl
    rw [hcall, if_neg hv]
    exact not_reports_null
  | sub_service_type sst =>
    obtain ⟨rfl, hsst⟩ := h
    have hcall : EcssSetter.call none (.sub_service_type sst) =
      access (if sst = 0 then .ok (-1, none) else .error .null) := rfl
    rw [hcall, if_neg hsst]
    exact not_reports_null
  | msg_type_cntr tcntr =>
    have hnull : pkt = none := h
    subst hnull
    exact not_reports_null
  | destination_id dest_id => exact refused_wide h _
  | source_id src_id => exact refused_wide h _
  | _ => exact h.elim

/-- Every setter call is reported but for those on a null packet that get past
their guards and the refusals of the two identifiers, which return 65535. -/
theorem ecss_setters_report_iff (pkt : Pkt) (setter : EcssSetter) :
    Reports pkt (setter.call pkt) ↔ ¬ Unreported pkt setter := by
  constructor
  · intro hreports hunreported
    exact not_reports_unreported hunreported hreports
  · intro h
    cases pkt with
    | none => exact reports_call_null h
    | some buf => exact reports_call h

/-- A destination for a telecommand, which has none. -/
theorem not_ecss_setters_report :
    ¬ Reports (some [0x18, 1, 0xc0, 0, 0, 4, 0x20, 17, 1, 0, 0])
      (EcssSetter.call (some [0x18, 1, 0xc0, 0, 0, 4, 0x20, 17, 1, 0, 0]) (.destination_id 5)) := by
  apply not_reports_unreported
  exact Or.inr ⟨1, rfl, by decide⟩

end spw_bridge.ecss
