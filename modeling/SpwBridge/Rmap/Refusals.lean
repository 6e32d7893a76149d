import SpwBridge.Rmap.SizeQuery

namespace spw_bridge.rmap

/-- The packets that calls of the setters lead to from a fresh one, whatever the
calls return, as long as each of them meets a condition. -/
inductive Reached (ok : Bool → RmapPkt → Setter → Prop) : RmapPkt → Prop where
  | create : Reached ok rmap_create_packet
  | call {pkt after : RmapPkt} (alloc : Bool) (setter : Setter) (r : Int) (hreached : Reached ok pkt)
      (hok : ok alloc pkt setter) (hcall : setter.call alloc pkt = .ok (r, after)) : Reached ok after

/-- A path setter that has accepted its arguments is refused the memory for its
copy. A target path of no octets counts where the packet has one already. -/
def MallocRefused (alloc : Bool) (pkt : RmapPkt) : Setter → Prop
  | .reply_path rpath len => alloc = false ∧ len ≠ 0 ∧ reply_path_accepted rpath len
  | .dest_path path len =>
    alloc = false ∧ dest_path_accepted path len ∧ ¬ (len = 0 ∧ pkt.path_len = 0 ∧ pkt.path = none)
  | _ => False

/-- The lengths of the paths, the pointers to them and the word count in the
instruction agree. -/
structure RmapPkt.PathsHeld (pkt : RmapPkt) : Prop where
  reply_words : pkt.rpath_len = 4 * pkt.ri.reply_addr_len.toNat
  path : pkt.path_len ≠ 0 → ∃ bytes, pkt.path = some bytes ∧ pkt.path_len ≤ bytes.length
  rpath : pkt.rpath_len ≠ 0 → ∃ bytes, pkt.rpath = some bytes ∧ pkt.rpath_len ≤ bytes.length

theorem rmap_create_packet_pathsHeld : rmap_create_packet.PathsHeld where
  reply_words := rfl
  path := fun h => absurd rfl h
  rpath := fun h => absurd rfl h

theorem RmapPkt.PathsHeld.fits {pkt : RmapPkt} (hheld : pkt.PathsHeld) : pkt.PathsFit := by
  constructor
  case path =>
    by_cases hzero : pkt.path_len = 0
    · omega
    · obtain ⟨bytes, hpath, hle⟩ := hheld.path hzero
      rw [hpath]
      exact hle
  case rpath =>
    by_cases hzero : pkt.rpath_len = 0
    · omega
    · obtain ⟨bytes, hpath, hle⟩ := hheld.rpath hzero
      rw [hpath]
      exact hle

theorem toNat_ne_zero {len : UInt8} (hlen : len ≠ 0) : len.toNat ≠ 0 := by
  intro hzero
  exact hlen (UInt8.toNat_inj.mp hzero)

/-- A call that is not refused memory keeps lengths and pointers together. -/
theorem Setter.call_pathsHeld {alloc : Bool} {setter : Setter} {pkt after : RmapPkt} {r : Int}
    (hheld : pkt.PathsHeld) (hok : ¬ MallocRefused alloc pkt setter)
    (hcall : setter.call alloc pkt = .ok (r, after)) : after.PathsHeld := by
  cases setter with
  | dst | src | key | tr_id | data_addr =>
    cases hcall
    exact ⟨hheld.reply_words, hheld.path, hheld.rpath⟩
  | cmd cmd =>
    simp only [Setter.call, rmap_set_cmd] at hcall
    split at hcall
    · cases hcall
      exact hheld
    · cases hcall
      exact ⟨hheld.reply_words, hheld.path, hheld.rpath⟩
  | data_len len =>
    simp only [Setter.call, rmap_set_data_len] at hcall
    split at hcall
    · cases hcall
      exact hheld
    · cases hcall
      exact ⟨hheld.reply_words, hheld.path, hheld.rpath⟩
  | reply_path rpath len =>
    rcases rmap_set_reply_path_cases hcall with ⟨_, _, hafter⟩ | ⟨_, _, _, hafter⟩ |
      ⟨haccepted, hlen, halloc, _, _⟩ | ⟨haccepted, _, _, _, bytes, hbytes, hafter⟩
    · subst hafter
      exact hheld
    · subst hafter
      exact ⟨rfl, hheld.path, fun h => absurd rfl h⟩
    · exact absurd ⟨halloc, hlen, haccepted⟩ hok
    · subst hafter
      have hwords := reply_words_of_accepted haccepted
      refine ⟨?_, hheld.path, fun _ => ⟨bytes, rfl, hbytes.ge⟩⟩
      rw [Nat.mul_comm]
      exact hwords.symm
  | dest_path path len =>
    rcases rmap_set_dest_path_cases hcall with ⟨_, _, hafter⟩ | ⟨haccepted, halloc, _, hafter⟩ |
      ⟨_, _, _, bytes, hbytes, hafter⟩
    · subst hafter
      exact hheld
    · -- only a path of no octets is left, which was and is absent
      have hblank : len = 0 ∧ pkt.path_len = 0 ∧ pkt.path = none := by
        by_contra hblank
        exact hok ⟨halloc, haccepted, hblank⟩
      subst hafter
      rw [hblank.1]
      exact ⟨hheld.reply_words, fun h => absurd rfl h, hheld.rpath⟩
    · subst hafter
      exact ⟨hheld.reply_words, fun _ => ⟨bytes, rfl, hbytes.ge⟩, hheld.rpath⟩

/-- The run lemma: lengths and pointers stay together along calls that are not
refused memory. -/
theorem Reached.pathsHeld {pkt : RmapPkt}
    (hreached : Reached (fun alloc pkt setter => ¬ MallocRefused alloc pkt setter) pkt) : pkt.PathsHeld := by
  induction hreached with
  | create => exact rmap_create_packet_pathsHeld
  | call alloc setter r _ hok hcall ih => exact Setter.call_pathsHeld ih hok hcall

/-- A failed call leaves such a packet as it was exactly when it was not refused
memory. -/
theorem Setter.failed_unchanged_iff {alloc : Bool} {setter : Setter} {pkt after : RmapPkt} {r : Int}
    (hheld : pkt.PathsHeld) (hcall : setter.call alloc pkt = .ok (r, after)) :
    (r = -1 → after = pkt) ↔ ¬ MallocRefused alloc pkt setter := by
  cases setter with
  | dst | src | key | tr_id | data_addr =>
    cases hcall
    exact ⟨fun _ h => h, fun _ h => by cases h⟩
  | cmd cmd =>
    simp only [Setter.call, rmap_set_cmd] at hcall
    split at hcall
    · cases hcall
      exact ⟨fun _ h => h, fun _ _ => rfl⟩
    · cases hcall
      exact ⟨fun _ h => h, fun _ h => by cases h⟩
  | data_len len =>
    simp only [Setter.call, rmap_set_data_len] at hcall
    split at hcall
    · cases hcall
      exact ⟨fun _ h => h, fun _ _ => rfl⟩
    · cases hcall
      exact ⟨fun _ h => h, fun _ h => by cases h⟩
  | reply_path rpath len =>
    rcases rmap_set_reply_path_cases hcall with ⟨hrefused, _, hafter⟩ | ⟨_, hlen, hr, _⟩ |
      ⟨haccepted, hlen, halloc, hr, hafter⟩ | ⟨_, _, halloc, hr, _⟩
    · exact ⟨fun _ h => hrefused h.2.2, fun _ _ => hafter⟩
    · exact ⟨fun _ h => h.2.1 hlen, fun _ h => by omega⟩
    · constructor
      · intro hsame
        have hpkt := hsame hr
        rw [hafter] at hpkt
        have hcount : len.toNat = pkt.rpath_len := congrArg RmapPkt.rpath_len hpkt
        have hnull : none = pkt.rpath := congrArg RmapPkt.rpath hpkt
        obtain ⟨bytes, hbytes, _⟩ := hheld.rpath (by have := toNat_ne_zero hlen; omega)
        rw [hbytes] at hnull
        cases hnull
      · intro hok
        exact absurd ⟨halloc, hlen, haccepted⟩ hok
    · refine ⟨fun _ h => ?_, fun _ h => by omega⟩
      rw [halloc] at h
      cases h.1
  | dest_path path len =>
    rcases rmap_set_dest_path_cases hcall with ⟨hrefused, _, hafter⟩ | ⟨haccepted, halloc, hr, hafter⟩ |
      ⟨_, halloc, hr, _⟩
    · exact ⟨fun _ h => hrefused h.2.1, fun _ _ => hafter⟩
    · constructor
      · rintro hsame ⟨_, _, hchanged⟩
        have hpkt := hsame hr
        rw [hafter] at hpkt
        have hcount : len.toNat = pkt.path_len := congrArg RmapPkt.path_len hpkt
        have hnull : none = pkt.path := congrArg RmapPkt.path hpkt
        have hzero : pkt.path_len = 0 := by
          by_contra hsome
          obtain ⟨bytes, hbytes, _⟩ := hheld.path hsome
          rw [hbytes] at hnull
          cases hnull
        have hlen : len = 0 := UInt8.toNat_inj.mp (hcount.trans hzero)
        exact hchanged ⟨hlen, hzero, hnull.symm⟩
      · intro hok _
        have hblank : len = 0 ∧ pkt.path_len = 0 ∧ pkt.path = none := by
          by_contra hblank
          exact hok ⟨halloc, haccepted, hblank⟩
        obtain ⟨hlen, hzero, hnull⟩ := hblank
        rw [hafter, hlen]
        cases pkt with
        | mk path path_len =>
          subst hzero
          subst hnull
          rfl
    · refine ⟨fun _ h => ?_, fun _ h => by omega⟩
      rw [halloc] at h
      cases h.1

/-- In every packet that calls not refused memory lead to, a failed call changes
nothing exactly when it is not refused memory either, the lengths of the paths
agree with their arrays, and the header builder finds all it reads. -/
theorem failed_setters_iff (pkt : RmapPkt)
    (hreached : Reached (fun alloc pkt setter => ¬ MallocRefused alloc pkt setter) pkt) :
    (∀ alloc setter r after, Setter.call alloc pkt setter = .ok (r, after) →
      ((r = -1 → after = pkt) ↔ ¬ MallocRefused alloc pkt setter)) ∧
      pkt.PathsHeld ∧ ∃ hdr, rmap_build_hdr pkt true = .ok (hdr.length, hdr) := by
  have hheld := hreached.pathsHeld
  refine ⟨?_, hheld, _, rmap_build_hdr_eq hheld.fits⟩
  intro alloc setter r after hcall
  exact Setter.failed_unchanged_iff hheld hcall

/-- A refused command after a target path. -/
theorem failed_cmd_unchanged :
    ∃ after, Setter.call true path_only (.cmd 0x1) = .ok (-1, after) ∧ after = path_only := by
  have hreached : Reached (fun alloc pkt setter => ¬ MallocRefused alloc pkt setter) path_only :=
    Reached.call true (.dest_path (some [1, 2]) 2) 0 Reached.create (fun h => by cases h.1) rfl
  obtain ⟨hunchanged, _⟩ := failed_setters_iff path_only hreached
  exact ⟨_, rfl, (hunchanged true (.cmd 0x1) (-1) _ rfl).mpr (fun h => by cases h) rfl⟩

/-- A refused reply path stays in the packet as a length without an array, which
the header builder then reads. -/
theorem failed_reply_path_kept :
    ¬ ∀ pkt, Reached (fun _ _ _ => True) pkt →
      (∀ alloc setter after, Setter.call alloc pkt setter = .ok (-1, after) → after = pkt) ∧
        pkt.PathsHeld ∧ ∃ hdr, rmap_build_hdr pkt true = .ok (hdr.length, hdr) := by
  intro hall
  have hcall : Setter.call false rmap_create_packet (.reply_path (some [1, 2, 3, 4]) 4) =
      .ok (-1, { rmap_create_packet with rpath_len := 4 }) := rfl
  obtain ⟨_, _, hdr, hbuild⟩ := hall _ (Reached.call false _ (-1) Reached.create trivial hcall)
  cases hbuild

end spw_bridge.rmap
