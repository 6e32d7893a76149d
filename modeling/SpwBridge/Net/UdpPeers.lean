import SpwBridge.Library.Table
import SpwBridge.Net.Relay

open effect tables

namespace spw_bridge.net

variable {σ : Type}

/-- The table of registered peers. Its array starts with room for four. -/
abbrev PeerTable := Table SockaddrIn 4

theorem four_pos : 0 < 4 := Nat.succ_pos 3

/-- A service with the entries `clients[0]` to `clients[nclients - 1]` of a
table. -/
def with_peers (svc : NetService) (t : PeerTable) : NetService :=
  { svc with clients := t.entries, clients_cap := t.cap }

/-- The array of a service is a table. -/
structure Holds (svc : NetService) (t : PeerTable) : Prop where
  clients : svc.clients = t.entries
  clients_cap : svc.clients_cap = t.cap

theorem Holds.with_peers_eq {svc : NetService} {t : PeerTable} (hholds : Holds svc t) : with_peers svc t = svc := by
  rw [with_peers, ← hholds.clients, ← hholds.clients_cap]

theorem with_peers_holds (svc : NetService) (t : PeerTable) : Holds (with_peers svc t) t := ⟨rfl, rfl⟩

/-- The call adds to the table, with the outcome of `realloc()` if it needs
one. -/
theorem dgram_add_client_add (E : Env σ) (id : SvcId) (client : SockaddrIn) {t : PeerTable} {w : World σ}
    (hholds : Holds (w.svc id) t) :
    wp (dgram_add_client E id client)
      (fun _ after => after.svc = Function.update w.svc id
        (with_peers (w.svc id) (t.add four_pos (E.malloc w.env).1 client))) (fun _ _ => False) w := by
  have hsame : Function.update w.svc id (with_peers (w.svc id) t) = w.svc := by
    rw [hholds.with_peers_eq, Function.update_eq_self]
  simp only [dgram_add_client, malloc, wp_bind, wp_get_svc, wp_ite, wp_syscall, wp_pure, wp_modify_svc,
    hholds.clients, hholds.clients_cap, Table.add]
  split
  case isTrue => exact hsame.symm
  case isFalse =>
    split
    case isFalse => rfl
    case isTrue =>
      cases (E.malloc w.env).1 with
      | true => rfl
      | false => exact hsame.symm

/-- A packet that goes to distinct peers goes to each of them once. -/
theorem count_datagrams {clients : List SockaddrIn} (hclients : clients.Nodup) (buf : List UInt8)
    (client : SockaddrIn) (msg : List UInt8) :
    (clients.map fun client => (client, buf)).count (client, msg) =
      if client ∈ clients ∧ msg = buf then 1 else 0 := by
  have hinj : Function.Injective fun client : SockaddrIn => (client, buf) := fun _ _ h => congrArg Prod.fst h
  rw [(hclients.map hinj).count]
  have hmem : (client, msg) ∈ clients.map (fun client => (client, buf)) ↔ client ∈ clients ∧ msg = buf := by
    simp [eq_comm]
  exact if_congr hmem rfl rfl

/-! ### Runs of registrations -/

/-- Calls of `dgram_add_client` for one service, one after the other as its lock
orders them, with anything in between that leaves the array alone. -/
inductive PeerRun (E : Env σ) (id : SvcId) (w : World σ) : World σ → Prop
  | start : PeerRun E id w w
  | other {mid after : World σ} (hrun : PeerRun E id w mid)
      (hclients : (after.svc id).clients = (mid.svc id).clients)
      (hcap : (after.svc id).clients_cap = (mid.svc id).clients_cap) : PeerRun E id w after
  | add {mid after : World σ} (hrun : PeerRun E id w mid) (client : SockaddrIn)
      (hcall : dgram_add_client E id client mid = .ok () after) : PeerRun E id w after

section runs

variable {E : Env σ} {id : SvcId} {w after : World σ}

/-- The run lemma: an array that is a table stays one, and no entry moves. -/
theorem PeerRun.table {t : PeerTable} (hrun : PeerRun E id w after) (hholds : Holds (w.svc id) t) :
    ∃ t' : PeerTable, Holds (after.svc id) t' ∧ t.entries <+: t'.entries := by
  induction hrun with
  | start => exact ⟨t, hholds, List.prefix_refl _⟩
  | other _ hclients hcap ih =>
    obtain ⟨t', hmid, hbegins⟩ := ih
    exact ⟨t', ⟨hclients.trans hmid.clients, hcap.trans hmid.clients_cap⟩, hbegins⟩
  | @add mid after _ client hcall ih =>
    obtain ⟨t', hmid, hbegins⟩ := ih
    have hsvc := (wp_ok hcall).mp (dgram_add_client_add E id client hmid)
    refine ⟨t'.add four_pos (E.malloc mid.env).1 client, ?_, hbegins.trans (t'.prefix_add four_pos _ client)⟩
    rw [hsvc, Function.update_self]
    exact with_peers_holds _ _

/-- The number of an endpoint among all of them. -/
def endpoint_code (client : SockaddrIn) : Nat := client.addr.toNat * 2 ^ 16 + client.port.toNat

theorem endpoint_code_injective : Function.Injective endpoint_code := by
  rintro ⟨addr, port⟩ ⟨addr', port'⟩ heq
  have hport := port.toNat_lt
  have hport' := port'.toNat_lt
  simp only [endpoint_code] at heq
  have haddr : addr.toNat = addr'.toNat := by omega
  have hports : port.toNat = port'.toNat := by omega
  rw [UInt32.toNat_inj.mp haddr, UInt16.toNat_inj.mp hports]

theorem endpoint_code_lt (client : SockaddrIn) : endpoint_code client < 2 ^ 48 := by
  have haddr := client.addr.toNat_lt
  have hport := client.port.toNat_lt
  simp only [endpoint_code]
  omega

/-- The peer table is a set in the order of registration: in every state that
calls from any endpoints reach from an empty array, whatever `realloc()` returns,
the entries are distinct and within the array, whose size in bytes fits `size_t`
even when it is doubled; entries stay where they are in all that follows; a call
registers its endpoint or leaves the table as it was, the latter only if
`realloc()` failed; and a packet goes to each registered peer exactly once. -/
theorem udp_peers_set (hclients : (w.svc id).clients = []) (hcap : (w.svc id).clients_cap = 0)
    (hrun : PeerRun E id w after) :
    (after.svc id).clients.length ≤ (after.svc id).clients_cap ∧
      (after.svc id).clients_cap * 2 * 16 < 2 ^ 64 ∧
      (after.svc id).clients.Nodup ∧
      (∀ later, PeerRun E id after later → (after.svc id).clients <+: (later.svc id).clients) ∧
      (∀ client, ∃ later, dgram_add_client E id client after = .ok () later ∧
        (client ∈ (later.svc id).clients ∨ (E.malloc after.env).1 = false ∧
          (after.svc id).clients.length = (after.svc id).clients_cap ∧ later.svc = after.svc)) ∧
      ∀ buf, ∃ later, dgram_send_all E id buf after = .ok () later ∧ later.svc = after.svc ∧
        ∃ dgrams, datagrams later.net_log = datagrams after.net_log ++ dgrams ∧
          ∀ client msg, dgrams.count (client, msg) =
            if client ∈ (after.svc id).clients ∧ msg = buf then 1 else 0 := by
  obtain ⟨t, hholds, _⟩ := hrun.table (t := .empty) ⟨hclients, hcap⟩
  have hsize := t.cap_le endpoint_code endpoint_code_injective endpoint_code_lt
  have hdistinct : (after.svc id).clients.Nodup := by
    rw [hholds.clients]
    exact t.nodup
  refine ⟨?_, ?_, hdistinct, ?_, ?_, ?_⟩
  · rw [hholds.clients, hholds.clients_cap]
    exact t.fits
  · rw [hholds.clients_cap]
    omega
  · intro later hlater
    obtain ⟨t', hholds', hbegins⟩ := hlater.table hholds
    rw [hholds.clients, hholds'.clients]
    exact hbegins
  · intro client
    obtain ⟨_, later, hcall, hsvc⟩ := ok_of_wp (dgram_add_client_add E id client hholds)
    refine ⟨later, hcall, ?_⟩
    rcases t.mem_add four_pos (E.malloc after.env).1 client with hmem | ⟨hrefused, hfull, _, hsame⟩
    · left
      rw [hsvc, Function.update_self]
      exact hmem
    · right
      refine ⟨hrefused, ?_, ?_⟩
      · rw [hholds.clients, hholds.clients_cap]
        exact hfull
      · rw [hsvc, hsame, hholds.with_peers_eq, Function.update_eq_self]
  · intro buf
    obtain ⟨_, later, hcall, hsends⟩ := ok_of_wp (dgram_send_all_sends id buf after)
    refine ⟨later, hcall, hsends.svc, _, hsends.datagrams_eq, ?_⟩
    exact fun client msg => count_datagrams hdistinct buf client msg

/-- The same peer twice and another one. -/
theorem udp_peers_set_twice :
    ∃ after, PeerRun Env.quiet .data (World.fresh ()) after ∧
      (after.svc .data).clients = [⟨1, 5⟩, ⟨2, 5⟩] ∧
      (after.svc .data).clients.length ≤ (after.svc .data).clients_cap ∧ (after.svc .data).clients.Nodup := by
  have hrun : PeerRun Env.quiet .data (World.fresh ()) _ :=
    .add (.add (.add .start ⟨1, 5⟩ rfl) ⟨1, 5⟩ rfl) ⟨2, 5⟩ rfl
  obtain ⟨hfits, _, hdistinct, _⟩ := udp_peers_set rfl rfl hrun
  exact ⟨_, hrun, rfl, hfits, hdistinct⟩

end runs

end spw_bridge.net
