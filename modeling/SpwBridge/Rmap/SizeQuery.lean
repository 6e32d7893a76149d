import SpwBridge.Rmap.Setters

namespace spw_bridge.rmap

/-- A packet without the command bit has no command code either. -/
def RmapPkt.CommandTogether (pkt : RmapPkt) : Prop := pkt.ri.cmd_resp = false → pkt.ri.cmd = 0

/-- The path setters leave command bit and command code alone. -/
theorem rmap_set_reply_path_command {alloc : Bool} {pkt after : RmapPkt} {rpath : Option (List UInt8)}
    {len : UInt8} {r : Int} (hcall : rmap_set_reply_path alloc pkt rpath len = .ok (r, after)) :
    after.ri.cmd = pkt.ri.cmd ∧ after.ri.cmd_resp = pkt.ri.cmd_resp := by
  rcases rmap_set_reply_path_cases hcall with ⟨_, _, hafter⟩ | ⟨_, _, _, hafter⟩ | ⟨_, _, _, _, hafter⟩ |
    ⟨_, _, _, _, _, _, hafter⟩
  all_goals
    subst hafter
    exact ⟨rfl, rfl⟩

theorem rmap_set_dest_path_command {alloc : Bool} {pkt after : RmapPkt} {path : Option (List UInt8)}
    {len : UInt8} {r : Int} (hcall : rmap_set_dest_path alloc pkt path len = .ok (r, after)) :
    after.ri = pkt.ri := by
  rcases rmap_set_dest_path_cases hcall with ⟨_, _, hafter⟩ | ⟨_, _, _, hafter⟩ | ⟨_, _, _, _, _, hafter⟩
  all_goals
    subst hafter
    rfl

/-- One setter call, whichever it is. -/
theorem Setter.call_commandTogether {alloc : Bool} {setter : Setter} {pkt after : RmapPkt} {r : Int}
    (hpkt : pkt.CommandTogether) (hcall : setter.call alloc pkt = .ok (r, after)) :
    after.CommandTogether := by
  cases setter with
  | dst | src | key | tr_id | data_addr =>
    cases hcall
    exact hpkt
  | cmd cmd =>
    simp only [Setter.call, rmap_set_cmd] at hcall
    split at hcall
    · cases hcall
      exact hpkt
    · cases hcall
      intro hresp
      cases hresp
  | reply_path rpath len =>
    obtain ⟨hcmd, hresp⟩ := rmap_set_reply_path_command hcall
    rw [RmapPkt.CommandTogether, hcmd, hresp]
    exact hpkt
  | dest_path path len =>
    rw [RmapPkt.CommandTogether, rmap_set_dest_path_command hcall]
    exact hpkt
  | data_len len =>
    simp only [Setter.call, rmap_set_data_len] at hcall
    split at hcall
    · cases hcall
      exact hpkt
    · cases hcall
      exact hpkt

theorem Built.commandTogether {pkt : RmapPkt} (hbuilt : Built pkt) : pkt.CommandTogether := by
  induction hbuilt with
  | create => exact fun _ => rfl
  | call alloc setter _ hcall ih => exact Setter.call_commandTogether ih hcall

/-- The table of header sizes knows the code of a built packet exactly when a
command was set. -/
theorem Built.knownCmd_iff {pkt : RmapPkt} (hbuilt : Built pkt) : pkt.ri.knownCmd = pkt.ri.cmd_resp := by
  cases hresp : pkt.ri.cmd_resp with
  | true => exact hbuilt.wellBuilt.known hresp
  | false =>
    rw [RmapInstruction.knownCmd, hbuilt.commandTogether hresp]
    rfl

/-- The size query of a built packet. -/
theorem Built.size_query {pkt : RmapPkt} (hbuilt : Built pkt) :
    rmap_build_hdr pkt false =
      .ok ((if pkt.ri.cmd_resp then 15 else -1) + pkt.path_len + pkt.rpath_len, []) := by
  have hsize : rmap_get_min_hdr_size pkt = if pkt.ri.cmd_resp then 15 else -1 := by
    rw [rmap_get_min_hdr_size_eq, hbuilt.knownCmd_iff, RmapInstruction.minHdrSize]
    cases pkt.ri.cmd_resp with
    | true => rfl
    | false => rfl
  rw [rmap_build_hdr, hsize]
  rfl

/-- The octets that the writer puts into a buffer. -/
theorem Built.written {pkt : RmapPkt} (hbuilt : Built pkt) :
    ∃ hdr, rmap_build_hdr pkt true = .ok (hdr.length, hdr) ∧
      hdr.length = pkt.path_len + (if pkt.ri.cmd_resp then 15 else 11) + pkt.rpath_len := by
  have hfits := hbuilt.wellBuilt.fits
  refine ⟨_, rmap_build_hdr_eq hfits, ?_⟩
  rw [List.length_append, RmapPkt.targetPath_length hfits, RmapPkt.header_length hfits,
    RmapInstruction.minHdrSize, RmapInstruction.writeBit]
  cases hresp : pkt.ri.cmd_resp with
  | true => simp [Nat.add_assoc]
  | false =>
    rw [hbuilt.commandTogether hresp]
    simp [RMAP_CMD_BIT_WRITE, Nat.add_assoc]

/-- What the size query returns for `pkt` is an error or the number of octets
written to a buffer. -/
def SizeQueryExact (pkt : RmapPkt) : Prop :=
  ∃ size hdr, rmap_build_hdr pkt false = .ok (size, []) ∧ rmap_build_hdr pkt true = .ok (hdr.length, hdr) ∧
    (size = -1 ∨ size = hdr.length)

/-- The query is exact once a command is set. Before, it is an error only while
there is no path: the lengths of the paths are added to the error value. -/
theorem size_query_exact_iff (pkt : RmapPkt) (hbuilt : Built pkt) :
    SizeQueryExact pkt ↔ pkt.ri.cmd_resp = true ∨ pkt.path_len + pkt.rpath_len = 0 := by
  have hquery := hbuilt.size_query
  obtain ⟨hdr, hwrite, hlength⟩ := hbuilt.written
  constructor
  · rintro ⟨size, hdr', hsize, hwrite', hexact⟩
    rw [hquery] at hsize
    rw [hwrite] at hwrite'
    cases hsize
    have hsame : hdr = hdr' := (Prod.mk.inj (Except.ok.inj hwrite')).2
    subst hsame
    cases hresp : pkt.ri.cmd_resp with
    | true => exact .inl rfl
    | false =>
      simp only [hresp, Bool.false_eq_true, if_false] at hexact hlength
      exact .inr (by omega)
  · intro hwhen
    refine ⟨_, hdr, hquery, hwrite, ?_⟩
    cases hresp : pkt.ri.cmd_resp with
    | true =>
      simp only [hresp, if_true] at hlength ⊢
      exact .inr (by omega)
    | false =>
      rw [hresp] at hwhen
      simp only [Bool.false_eq_true, if_false, false_or] at hwhen ⊢
      exact .inl (by omega)

/-- A packet with a target path of two octets, for which no command is set. -/
def path_only : RmapPkt := { rmap_create_packet with path := some [1, 2], path_len := 2 }

theorem path_only_built : Built path_only :=
  Built.call true (.dest_path (some [1, 2]) 2) Built.create rfl

theorem size_query_with_command : SizeQueryExact (rmap_set_cmd path_only 0x9).2 := by
  have hbuilt : Built (rmap_set_cmd path_only 0x9).2 := Built.call true (.cmd 0x9) path_only_built rfl
  exact (size_query_exact_iff _ hbuilt).mpr (.inl rfl)

/-- One octet is asked for and thirteen are written. -/
theorem size_query_overrun : ¬ ∀ pkt, Built pkt → SizeQueryExact pkt := by
  intro hall
  obtain ⟨size, hdr, hsize, hwrite, hexact⟩ := hall path_only path_only_built
  have hone : size = 1 := (Prod.mk.inj (Except.ok.inj hsize)).1.symm
  have hthirteen : (hdr.length : Int) = 13 := (Prod.mk.inj (Except.ok.inj hwrite)).1.symm
  omega

end spw_bridge.rmap
