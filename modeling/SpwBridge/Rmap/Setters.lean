import SpwBridge.Rmap.Header

namespace spw_bridge.rmap

/-- What every sequence of successful setter calls keeps true of a packet. -/
structure RmapPkt.WellBuilt (pkt : RmapPkt) : Prop where
  proto : pkt.proto_id = RMAP_PROTOCOL_ID
  fits : pkt.PathsFit
  reply_words : pkt.rpath_len = pkt.ri.reply_addr_len.toNat * 4
  known : pkt.ri.cmd_resp → pkt.ri.knownCmd
  data_len : pkt.data_len.toNat < 2 ^ 24

theorem rmap_create_packet_wellBuilt : rmap_create_packet.WellBuilt where
  proto := rfl
  fits := ⟨Nat.zero_le _, Nat.zero_le _⟩
  reply_words := rfl
  known := by simp [rmap_create_packet]
  data_len := by simp [rmap_create_packet]

theorem read_loop_length {ptr : Option (List UInt8)} {off n : Nat} {bytes : List UInt8}
    (h : read_loop ptr off n = .ok bytes) : bytes.length = n := by
  induction n generalizing off bytes with
  | zero =>
    simp only [read_loop, Except.ok.injEq] at h
    simp [← h]
  | succ n ih =>
    rw [read_loop, bind_eq_ok_iff] at h
    obtain ⟨b, _, h⟩ := h
    rw [bind_eq_ok_iff] at h
    obtain ⟨rest, hrest, h⟩ := h
    simp only [Except.ok.injEq] at h
    simp [← h, ih hrest]

/-- An accepted reply path length is four times its two-bit word count. -/
private theorem reply_words_val : ∀ len : BitVec 8, len ≤ 12 → len &&& 3 = 0 →
    (BitVec.ofNat 2 (len >>> 2).toNat).toNat * 4 = len.toNat := by
  decide

/-- The argument checks of `rmap_set_reply_path`. -/
def reply_path_accepted (rpath : Option (List UInt8)) (len : UInt8) : Prop :=
  ¬ (rpath = none ∧ len ≠ 0) ∧ ¬ RMAP_MAX_REPLY_PATH_LEN < len ∧ ¬ len &&& 0x3 ≠ 0

/-- The argument checks of `rmap_set_dest_path`. -/
def dest_path_accepted (path : Option (List UInt8)) (len : UInt8) : Prop :=
  ¬ (path = none ∧ len ≠ 0) ∧ ¬ RMAP_MAX_PATH_LEN < len

/-- The packet with a reply path and its word count. -/
def RmapPkt.withReplyPath (pkt : RmapPkt) (bytes : List UInt8) (len : UInt8) : RmapPkt :=
  { pkt with
    rpath_len := len.toNat, rpath := some bytes,
    ri := { pkt.ri with reply_addr_len := BitVec.ofNat 2 (len >>> 2).toNat } }

/-- All that a call of `rmap_set_reply_path` can do. -/
theorem rmap_set_reply_path_cases {alloc : Bool} {pkt after : RmapPkt} {rpath : Option (List UInt8)}
    {len : UInt8} {r : Int} (hcall : rmap_set_reply_path alloc pkt rpath len = .ok (r, after)) :
    ¬ reply_path_accepted rpath len ∧ r = -1 ∧ after = pkt ∨
      reply_path_accepted rpath len ∧ len = 0 ∧ r = 0 ∧
        after = { pkt with rpath_len := 0, ri := { pkt.ri with reply_addr_len := 0 } } ∨
      reply_path_accepted rpath len ∧ len ≠ 0 ∧ alloc = false ∧ r = -1 ∧
        after = { pkt with rpath_len := len.toNat, rpath := none } ∨
      reply_path_accepted rpath len ∧ len ≠ 0 ∧ alloc = true ∧ r = 0 ∧
        ∃ bytes : List UInt8, bytes.length = len.toNat ∧ after = pkt.withReplyPath bytes len := by
  unfold rmap_set_reply_path at hcall
  split at hcall
  · rename_i hnull
    cases hcall
    exact .inl ⟨fun h => h.1 hnull, rfl, rfl⟩
  rename_i hnull
  split at hcall
  · rename_i hmax
    cases hcall
    exact .inl ⟨fun h => h.2.1 hmax, rfl, rfl⟩
  rename_i hmax
  split at hcall
  · rename_i hmultiple
    cases hcall
    exact .inl ⟨fun h => h.2.2 hmultiple, rfl, rfl⟩
  rename_i hmultiple
  have haccepted : reply_path_accepted rpath len := ⟨hnull, hmax, hmultiple⟩
  dsimp only at hcall
  split at hcall
  · rename_i hzero
    subst hzero
    cases hcall
    exact .inr (.inl ⟨haccepted, rfl, rfl, rfl⟩)
  rename_i hsome
  cases alloc with
  | false =>
    cases hcall
    exact .inr (.inr (.inl ⟨haccepted, hsome, rfl, rfl, rfl⟩))
  | true =>
    rw [if_neg (by simp), bind_eq_ok_iff] at hcall
    obtain ⟨bytes, hread, hcall⟩ := hcall
    cases hcall
    exact .inr (.inr (.inr ⟨haccepted, hsome, rfl, rfl, bytes, read_loop_length hread, rfl⟩))

/-- All that a call of `rmap_set_dest_path` can do. -/
theorem rmap_set_dest_path_cases {alloc : Bool} {pkt after : RmapPkt} {path : Option (List UInt8)}
    {len : UInt8} {r : Int} (hcall : rmap_set_dest_path alloc pkt path len = .ok (r, after)) :
    ¬ dest_path_accepted path len ∧ r = -1 ∧ after = pkt ∨
      dest_path_accepted path len ∧ alloc = false ∧ r = -1 ∧
        after = { pkt with path_len := len.toNat, path := none } ∨
      dest_path_accepted path len ∧ alloc = true ∧ r = 0 ∧
        ∃ bytes : List UInt8, bytes.length = len.toNat ∧
          after = { pkt with path_len := len.toNat, path := some bytes } := by
  unfold rmap_set_dest_path at hcall
  split at hcall
  · rename_i hnull
    cases hcall
    exact .inl ⟨fun h => h.1 hnull, rfl, rfl⟩
  rename_i hnull
  split at hcall
  · rename_i hmax
    cases hcall
    exact .inl ⟨fun h => h.2 hmax, rfl, rfl⟩
  rename_i hmax
  have haccepted : dest_path_accepted path len := ⟨hnull, hmax⟩
  dsimp only at hcall
  cases alloc with
  | false =>
    cases hcall
    exact .inr (.inl ⟨haccepted, rfl, rfl, rfl⟩)
  | true =>
    rw [if_neg (by simp), bind_eq_ok_iff] at hcall
    obtain ⟨bytes, hread, hcall⟩ := hcall
    cases hcall
    exact .inr (.inr ⟨haccepted, rfl, rfl, bytes, read_loop_length hread, rfl⟩)

/-- The word count of an accepted reply path says how long it is. -/
theorem reply_words_of_accepted {rpath : Option (List UInt8)} {len : UInt8}
    (haccepted : reply_path_accepted rpath len) :
    (BitVec.ofNat 2 (len >>> 2).toNat).toNat * 4 = len.toNat := by
  have hmax : len.toBitVec ≤ 12 := by
    simpa [UInt8.le_iff_toBitVec_le, RMAP_MAX_REPLY_PATH_LEN] using haccepted.2.1
  exact reply_words_val len.toBitVec hmax (by simpa [← UInt8.toBitVec_inj] using haccepted.2.2)

theorem rmap_set_reply_path_wellBuilt {alloc : Bool} {pkt after : RmapPkt} {rpath : Option (List UInt8)}
    {len : UInt8} (hpkt : pkt.WellBuilt)
    (hcall : rmap_set_reply_path alloc pkt rpath len = .ok (0, after)) : after.WellBuilt := by
  obtain ⟨hproto, hfits, _, hknown, hdata⟩ := hpkt
  rcases rmap_set_reply_path_cases hcall with ⟨_, hr, _⟩ | ⟨_, _, _, hafter⟩ | ⟨_, _, _, hr, _⟩ |
    ⟨haccepted, _, _, _, bytes, hlen, hafter⟩
  · cases hr
  · subst hafter
    exact ⟨hproto, ⟨hfits.path, Nat.zero_le _⟩, rfl, hknown, hdata⟩
  · cases hr
  · subst hafter
    have hrpath : len.toNat ≤ bytes.length := by omega
    exact ⟨hproto, ⟨hfits.path, hrpath⟩, (reply_words_of_accepted haccepted).symm, hknown, hdata⟩

theorem rmap_set_dest_path_wellBuilt {alloc : Bool} {pkt after : RmapPkt} {path : Option (List UInt8)}
    {len : UInt8} (hpkt : pkt.WellBuilt)
    (hcall : rmap_set_dest_path alloc pkt path len = .ok (0, after)) : after.WellBuilt := by
  obtain ⟨hproto, hfits, hwords, hknown, hdata⟩ := hpkt
  rcases rmap_set_dest_path_cases hcall with ⟨_, hr, _⟩ | ⟨_, _, hr, _⟩ | ⟨_, _, _, bytes, hlen, hafter⟩
  · cases hr
  · cases hr
  · subst hafter
    have hpath : len.toNat ≤ bytes.length := by omega
    exact ⟨hproto, ⟨hpath, hfits.rpath⟩, hwords, hknown, hdata⟩

/-- The validation table and the size query know the same codes. -/
private theorem knownCmd_of_valid : ∀ cmd : BitVec 8, rmap_validate_cmd_code (UInt8.ofBitVec cmd) = 0 →
    ∀ (len : BitVec 2) (resp reserved : Bool),
      RmapInstruction.knownCmd ⟨len, BitVec.ofNat 4 (UInt8.ofBitVec cmd &&& 0xF).toNat, resp, reserved⟩ := by
  intro cmd hvalid len resp reserved
  have htable : ∀ cmd : BitVec 8, rmap_validate_cmd_code (UInt8.ofBitVec cmd) = 0 →
      RmapInstruction.knownCmd ⟨0, BitVec.ofNat 4 (UInt8.ofBitVec cmd &&& 0xF).toNat, false, false⟩ := by
    decide +kernel
  exact htable cmd hvalid

theorem rmap_set_cmd_wellBuilt {pkt after : RmapPkt} {cmd : UInt8} (hpkt : pkt.WellBuilt)
    (hcall : rmap_set_cmd pkt cmd = (0, after)) : after.WellBuilt := by
  obtain ⟨hproto, hfits, hwords, _, hdata⟩ := hpkt
  unfold rmap_set_cmd at hcall
  split at hcall
  · simp at hcall
  · rename_i hvalid
    simp only [Prod.mk.injEq, true_and] at hcall
    subst hcall
    have hknown := knownCmd_of_valid cmd.toBitVec (by simpa using hvalid)
    exact ⟨hproto, ⟨hfits.path, hfits.rpath⟩, hwords, fun _ => hknown _ _ _, hdata⟩

theorem rmap_set_data_len_wellBuilt {pkt after : RmapPkt} {len : Nat} (hpkt : pkt.WellBuilt)
    (hcall : rmap_set_data_len pkt len = (0, after)) : after.WellBuilt := by
  obtain ⟨hproto, hfits, hwords, hknown, _⟩ := hpkt
  unfold rmap_set_data_len at hcall
  split at hcall
  · simp at hcall
  · rename_i hmax
    simp only [Prod.mk.injEq, true_and] at hcall
    subst hcall
    refine ⟨hproto, ⟨hfits.path, hfits.rpath⟩, hwords, hknown, ?_⟩
    simp only [RMAP_MAX_DATA_LEN] at hmax
    simp only [UInt32.toNat_ofNat']
    omega

/-- One successful setter call, whichever it is. -/
theorem Setter.call_wellBuilt {alloc : Bool} {setter : Setter} {pkt after : RmapPkt} (hpkt : pkt.WellBuilt)
    (hcall : setter.call alloc pkt = .ok (0, after)) : after.WellBuilt := by
  obtain ⟨hproto, hfits, hwords, hknown, hdata⟩ := id hpkt
  cases setter with
  | dst | src | key | tr_id | data_addr =>
    simp only [Setter.call, Except.ok.injEq, Prod.mk.injEq, true_and] at hcall
    subst hcall
    exact ⟨hproto, ⟨hfits.path, hfits.rpath⟩, hwords, hknown, hdata⟩
  | cmd cmd => exact rmap_set_cmd_wellBuilt hpkt (Except.ok.inj hcall)
  | reply_path rpath len => exact rmap_set_reply_path_wellBuilt hpkt hcall
  | dest_path path len => exact rmap_set_dest_path_wellBuilt hpkt hcall
  | data_len len => exact rmap_set_data_len_wellBuilt hpkt (Except.ok.inj hcall)

theorem Built.wellBuilt {pkt : RmapPkt} (hbuilt : Built pkt) : pkt.WellBuilt := by
  induction hbuilt with
  | create => exact rmap_create_packet_wellBuilt
  | call alloc setter _ hcall ih => exact setter.call_wellBuilt ih hcall

end spw_bridge.rmap
