import SpwBridge.Net.Relay

open effect

namespace spw_bridge.net

variable {σ : Type}

/-- The bytes that a call hands to the network. -/
def out_msg : NetCall → Option (List UInt8)
  | .send_all _ msg | .sendto _ msg => some msg
  | .sent _ _ | .close _ | .select _ => none

/-- A packet as it is for a sniffer client, without the GRESB option of the
sniffer. -/
def SniffsRaw (cfg : BridgeCfg) (buf : List UInt8) (w : World σ) (call : NetCall) : Prop :=
  cfg.sniff_gresb = false ∧ ∃ fd ∈ (w.svc .sniff).conn_set, call = .send_all fd buf

/-- What a run of the forwarding hands to the network for a packet: nothing when
the creation of GRESB packets is refused, and else the packet in whole GRESB
packets. Raw copies for the sniffer do not count. -/
structure RelaysWhole (E : Env σ) (cfg : BridgeCfg) (buf : List UInt8) (w : World σ) : Prop where
  refused : (∀ s, gresb_create_host_data_pkt (E.malloc s).1 buf = none) →
    ∀ calls, (final (net_forward_to_clients E cfg buf w)).net_log = w.net_log ++ calls →
      ∀ call ∈ calls, out_msg call = none ∨ SniffsRaw cfg buf w call
  whole : ∀ calls, (final (net_forward_to_clients E cfg buf w)).net_log = w.net_log ++ calls →
    ∀ call ∈ calls, ∀ msg, out_msg call = some msg → Encapsulates msg buf ∨ SniffsRaw cfg buf w call

/-- Whatever is handed to the network is the message of a created packet. -/
theorem created_of_permitted {E : Env σ} {cfg : BridgeCfg} (hgresb : cfg.enable_gresb = true) {buf msg : List UInt8}
    {w : World σ} {call : NetCall} (hcall : Permitted (relayed E cfg buf) (relayed E cfg buf .data) w call)
    (hmsg : out_msg call = some msg) : Created E buf msg ∨ SniffsRaw cfg buf w call := by
  cases call with
  | sent | close | select => simp [out_msg] at hmsg
  | sendto client other =>
    obtain rfl := Option.some.inj hmsg
    simp only [Permitted, relayed, hgresb, ↓reduceIte] at hcall
    exact Or.inl hcall
  | send_all fd other =>
    obtain rfl := Option.some.inj hmsg
    obtain ⟨id, hmem, hrelayed⟩ := hcall
    cases id with
    | data =>
      simp only [relayed, hgresb, ↓reduceIte] at hrelayed
      exact Or.inl hrelayed
    | gresb_rx => exact Or.inl hrelayed.2
    | sniff =>
      simp only [relayed] at hrelayed
      split at hrelayed
      · exact Or.inl hrelayed
      · rename_i hraw
        exact Or.inr ⟨by simpa using hraw, fd, hmem, by rw [hrelayed]⟩
    | rmap | gresb_tx => exact hrelayed.elim

/-- A bridge with one peer of the data service: on descriptor 4, or registered
as a sender of datagrams. -/
def peerWorld (client : SockaddrIn) : World Unit :=
  { World.fresh () with svc := Function.update (World.fresh ()).svc .data ⟨3, {4}, 5, [client], 4⟩ }

theorem mem_messages {fd : Nat} {msg : List UInt8} {calls : List NetCall} :
    (fd, msg) ∈ messages calls ↔ .send_all fd msg ∈ calls := by
  simp only [messages, List.mem_filterMap]
  constructor
  · rintro ⟨call, hcall, hmsg⟩
    cases call with
    | send_all fd' msg' =>
      obtain ⟨rfl, rfl⟩ := Prod.mk.inj (Option.some.inj hmsg)
      exact hcall
    | sent | sendto | close | select => cases hmsg
  · intro hcall
    exact ⟨_, hcall, rfl⟩

theorem mem_datagrams {client : SockaddrIn} {msg : List UInt8} {calls : List NetCall} :
    (client, msg) ∈ datagrams calls ↔ .sendto client msg ∈ calls := by
  simp only [datagrams, List.mem_filterMap]
  constructor
  · rintro ⟨call, hcall, hmsg⟩
    cases call with
    | sendto client' msg' =>
      obtain ⟨rfl, rfl⟩ := Prod.mk.inj (Option.some.inj hmsg)
      exact hcall
    | sent | send_all | close | select => cases hmsg
  · intro hcall
    exact ⟨_, hcall, rfl⟩

/-- That peer is handed the packet in its frame. -/
theorem peerWorld_handed (cfg : BridgeCfg) (buf : List UInt8) (client : SockaddrIn) :
    ∃ calls, (final (net_forward_to_clients .quiet cfg buf (peerWorld client))).net_log = [] ++ calls ∧
      (if cfg.mode = .MODE_DGRAM then .sendto client (framed cfg.enable_gresb buf)
        else .send_all 4 (framed cfg.enable_gresb buf)) ∈ calls := by
  obtain ⟨_, after, hrun, s, calls, rfl, hmessages, hdatagrams⟩ :=
    ok_of_wp (net_forward_to_clients_sends succeeds_quiet cfg buf (peerWorld client))
  refine ⟨calls, by rw [hrun]; rfl, ?_⟩
  split_ifs with hmode
  · rw [← mem_datagrams, hdatagrams, relayed_dgram, if_pos hmode]
    exact List.mem_singleton_self _
  · rw [← mem_messages, hmessages, relayed_conn, if_neg hmode]
    refine List.mem_append_right _ (List.mem_append_left _ ?_)
    exact List.mem_singleton_self _

/-- Everything that is relayed is encapsulated whole exactly up to the lengths
that the 24 bits of the size field hold. Nothing on the way checks the length. -/
theorem gresb_relay_iff {cfg : BridgeCfg} (hgresb : cfg.enable_gresb = true) (buf : List UInt8) :
    (∀ {σ : Type} (E : Env σ) (w : World σ), RelaysWhole E cfg buf w) ↔ buf.length < 2 ^ 24 := by
  constructor
  · intro hwhole
    obtain ⟨calls, hcalls, hmem⟩ := peerWorld_handed cfg buf ⟨0, 0⟩
    have hout := (hwhole .quiet (peerWorld ⟨0, 0⟩)).whole calls hcalls _ hmem
    have hpeer : ∀ call, ¬ SniffsRaw cfg buf (peerWorld ⟨0, 0⟩) call := by
      rintro call ⟨_, fd, hfd, _⟩
      simp [peerWorld, World.fresh] at hfd
    have hencapsulates := (hout (gresb_msg buf) (by split_ifs <;> simp [out_msg, framed, hgresb])).resolve_right
      (hpeer _)
    exact (gresb_msg_encapsulates_iff buf).mp hencapsulates
  · intro hfits σ E w
    obtain ⟨_, calls, hcalls, hpermitted⟩ := net_forward_to_clients_sendsOnly E cfg buf w
    have hsame : ∀ calls', (final (net_forward_to_clients E cfg buf w)).net_log = w.net_log ++ calls' →
        calls' = calls := fun calls' hcalls' => List.append_cancel_left (hcalls'.symm.trans hcalls)
    constructor
    · intro hrefused calls' hcalls' call hcall
      rw [hsame calls' hcalls'] at hcall
      cases hout : out_msg call with
      | none => exact Or.inl rfl
      | some msg =>
        rcases created_of_permitted hgresb (hpermitted call hcall) hout with ⟨⟨s, hs⟩, _⟩ | hraw
        · have hnone := hrefused s
          rw [gresb_create_host_data_pkt_eq, hs] at hnone
          cases hnone
        · exact Or.inr hraw
    · intro calls' hcalls' call hcall msg hout
      rw [hsame calls' hcalls'] at hcall
      rcases created_of_permitted hgresb (hpermitted call hcall) hout with ⟨_, rfl⟩ | hraw
      · exact Or.inl ((gresb_msg_encapsulates_iff buf).mpr hfits)
      · exact Or.inr hraw

/-- A server with the GRESB option. -/
def gresbServer : BridgeCfg := { bridge_cfg_init [] with enable_gresb := true }

theorem gresb_relay_iff_server :
    (∀ {σ : Type} (E : Env σ) (w : World σ), RelaysWhole E gresbServer [0xaa] w) ↔ [(0xaa : UInt8)].length < 2 ^ 24 :=
  gresb_relay_iff rfl [0xaa]

/-- Of a packet of 2^24 bytes a peer gets a header that announces none, and
none. -/
theorem gresb_msg_cut {buf : List UInt8} (hlength : buf.length = 2 ^ 24) : gresb_msg buf = [0, 0, 0, 0] := by
  rw [gresb_msg_eq, hlength, Nat.mod_self, List.take_zero]
  rfl

theorem gresb_relay_cut :
    ∃ calls, (final (net_forward_to_clients .quiet gresbServer (List.replicate (2 ^ 24) 0)
        (peerWorld ⟨0, 0⟩))).net_log = [] ++ calls ∧ .send_all 4 [0, 0, 0, 0] ∈ calls ∧
      ¬ RelaysWhole .quiet gresbServer (List.replicate (2 ^ 24) 0) (peerWorld ⟨0, 0⟩) := by
  have hcut : ∀ buf : List UInt8, buf.length = 2 ^ 24 →
      ∃ calls, (final (net_forward_to_clients .quiet gresbServer buf (peerWorld ⟨0, 0⟩))).net_log = [] ++ calls ∧
        .send_all 4 [0, 0, 0, 0] ∈ calls ∧ ¬ RelaysWhole .quiet gresbServer buf (peerWorld ⟨0, 0⟩) := by
    intro buf hlength
    obtain ⟨calls, hcalls, hmem⟩ := peerWorld_handed gresbServer buf ⟨0, 0⟩
    have hmsg : .send_all 4 (gresb_msg buf) ∈ calls := hmem
    refine ⟨calls, hcalls, gresb_msg_cut hlength ▸ hmsg, fun hwhole => ?_⟩
    rcases hwhole.whole calls hcalls _ hmsg _ rfl with hencapsulates | ⟨_, fd, hfd, _⟩
    · have hlt := (gresb_msg_encapsulates_iff buf).mp hencapsulates
      rw [hlength] at hlt
      exact absurd hlt (Nat.lt_irrefl _)
    · simp [peerWorld, World.fresh] at hfd
  exact hcut _ List.length_replicate

end spw_bridge.net
