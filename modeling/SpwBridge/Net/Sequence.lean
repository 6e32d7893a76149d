import SpwBridge.Ccsds

namespace spw_bridge.net

/-- The next expected sequence count of one APID. -/
structure PusSeq where
  apid : UInt16
  next : UInt16
  deriving DecidableEq, Repr

/-- The sequence counters of one direction, `struct pus_seq *seq` with its
`size_t n`. The array holds at least the `n` entries that the search visits. -/
structure PusSeqTable where
  seq : List PusSeq
  n : Nat
  allocated : n ≤ seq.length
  deriving DecidableEq, Repr

/-- The table of a fresh `struct net_state`. -/
def PusSeqTable.empty : PusSeqTable := ⟨[], 0, Nat.le_refl 0⟩

/-- What the error branch reports. -/
structure SequenceError where
  expected : UInt16
  received : UInt16
  apid : UInt16
  deriving DecidableEq, Repr

/-- `realloc()` to `n` entries keeps the entries that fit and leaves the others
indeterminate. -/
def realloc (seq : List PusSeq) (n : Nat) : List PusSeq :=
  seq.take n ++ List.replicate (n - seq.length) ⟨0, 0⟩

theorem realloc_length (seq : List PusSeq) (n : Nat) : (realloc seq n).length = n := by
  simp [realloc]
  omega

/-- Check one packet against the counters of its direction; `alloc` is the
outcome of the `realloc()` that an untracked APID needs. -/
def check_pus_sequence (alloc : Bool) (pkt : List UInt8) (t : PusSeqTable) :
    Except Fault (Option SequenceError × PusSeqTable) :=
  if pkt.length < SPP_PKT_HDR_LEN then .ok (none, t)
  else do
    let apid ← ccsds_get_apid pkt
    let sctr ← ccsds_get_seq_cnt pkt
    let i := (t.seq.take t.n).findIdx fun entry => entry.apid == apid
    if i = t.n then
      if !alloc then .ok (none, t)
      else
        let seq := (realloc t.seq (t.n + 1)).set i ⟨apid, (sctr + 1) &&& 0x3fff⟩
        .ok (none, ⟨seq, t.n, by simp [seq, realloc_length]⟩)
    else
      let entry := t.seq.getD i ⟨0, 0⟩
      let error := if sctr ≠ entry.next then some ⟨entry.next, sctr, apid⟩ else none
      .ok (error, ⟨t.seq.set i { entry with next := (sctr + 1) &&& 0x3fff }, t.n, by simp [t.allocated]⟩)

/-- Check packets one after the other, every `realloc()` succeeding. -/
def check_all (t : PusSeqTable) : List (List UInt8) → Except Fault PusSeqTable
  | [] => .ok t
  | pkt :: pkts => do
    let (_, t) ← check_pus_sequence true pkt t
    check_all t pkts

/-- No path changes the number of tracked entries, the one that appends an
entry included. -/
theorem check_pus_sequence_n {alloc : Bool} {pkt : List UInt8} {t after : PusSeqTable}
    {error : Option SequenceError} (hcheck : check_pus_sequence alloc pkt t = .ok (error, after)) :
    after.n = t.n := by
  unfold check_pus_sequence at hcheck
  split at hcheck
  · simp only [Except.ok.injEq, Prod.mk.injEq] at hcheck
    rw [← hcheck.2]
  rw [bind_eq_ok_iff] at hcheck
  obtain ⟨apid, _, hcheck⟩ := hcheck
  rw [bind_eq_ok_iff] at hcheck
  obtain ⟨sctr, _, hcheck⟩ := hcheck
  dsimp only at hcheck
  split at hcheck
  · split at hcheck <;> simp only [Except.ok.injEq, Prod.mk.injEq] at hcheck <;> rw [← hcheck.2]
  · simp only [Except.ok.injEq, Prod.mk.injEq] at hcheck
    rw [← hcheck.2]

/-- No packet takes the check outside its buffer or its table. -/
theorem check_pus_sequence_total (alloc : Bool) (pkt : List UInt8) (t : PusSeqTable) :
    ∃ error after, check_pus_sequence alloc pkt t = .ok (error, after) := by
  unfold check_pus_sequence
  by_cases hshort : pkt.length < SPP_PKT_HDR_LEN
  · exact ⟨none, t, if_pos hshort⟩
  · obtain ⟨apid, hapid, _⟩ := ccsds_get_apid_ok (Nat.le_of_not_lt hshort)
    obtain ⟨sctr, hsctr, _⟩ := ccsds_get_seq_cnt_ok (Nat.le_of_not_lt hshort)
    rw [if_neg hshort, hapid, bind_ok, hsctr, bind_ok]
    dsimp only
    split_ifs <;> exact ⟨_, _, rfl⟩

/-- With no entry tracked there is nothing to compare with. -/
theorem check_pus_sequence_untracked (alloc : Bool) (pkt : List UInt8) {t : PusSeqTable} (hn : t.n = 0) :
    ∃ after, check_pus_sequence alloc pkt t = .ok (none, after) ∧ after.n = 0 := by
  unfold check_pus_sequence
  by_cases hshort : pkt.length < SPP_PKT_HDR_LEN
  · exact ⟨t, if_pos hshort, hn⟩
  · obtain ⟨apid, hapid, _⟩ := ccsds_get_apid_ok (Nat.le_of_not_lt hshort)
    obtain ⟨sctr, hsctr, _⟩ := ccsds_get_seq_cnt_ok (Nat.le_of_not_lt hshort)
    have hsearch : (t.seq.take t.n).findIdx (fun entry => entry.apid == apid) = t.n := by
      simp [hn]
    rw [if_neg hshort, hapid, bind_ok, hsctr, bind_ok]
    dsimp only
    rw [if_pos hsearch]
    cases alloc with
    | false => exact ⟨t, rfl, hn⟩
    | true => exact ⟨_, rfl, hn⟩

/-- So no entry is ever tracked in a run from the empty table. -/
theorem check_all_untracked (pkts : List (List UInt8)) {t : PusSeqTable} (hn : t.n = 0) :
    ∃ after, check_all t pkts = .ok after ∧ after.n = 0 := by
  induction pkts generalizing t with
  | nil => exact ⟨t, rfl, hn⟩
  | cons pkt pkts ih =>
    obtain ⟨next, hcheck, hnext⟩ := check_pus_sequence_untracked true pkt hn
    obtain ⟨after, hall, hafter⟩ := ih hnext
    refine ⟨after, ?_, hafter⟩
    rw [check_all, hcheck, bind_ok]
    exact hall

/-- Once an APID is tracked, the comparison and the update are right: the
verdict compares with the stored value, which becomes the received count plus
one with wrap-around at 14 bits. -/
theorem check_pus_sequence_tracked {alloc : Bool} {pkt : List UInt8} {t : PusSeqTable} {i : Nat}
    (hlen : SPP_PKT_HDR_LEN ≤ pkt.length) (hi : i < t.n)
    (hentry : (t.seq.getD i ⟨0, 0⟩).apid.toNat = packetApid pkt)
    (hfirst : ∀ j, j < i → (t.seq.getD j ⟨0, 0⟩).apid.toNat ≠ packetApid pkt) :
    ∃ error after, check_pus_sequence alloc pkt t = .ok (error, after) ∧
      (error.isSome ↔ packetCount pkt ≠ (t.seq.getD i ⟨0, 0⟩).next.toNat) ∧
      (after.seq.getD i ⟨0, 0⟩).next.toNat = (packetCount pkt + 1) % 2 ^ 14 := by
  have hroom := t.allocated
  obtain ⟨apid, hapid, hapidVal⟩ := ccsds_get_apid_ok hlen
  obtain ⟨sctr, hsctr, hsctrVal⟩ := ccsds_get_seq_cnt_ok hlen
  have hsearch : (t.seq.take t.n).findIdx (fun entry => entry.apid == apid) = i := by
    rw [List.findIdx_eq (by simp; omega)]
    simp only [List.getElem_take, beq_iff_eq, beq_eq_false_iff_ne, ne_eq]
    constructor
    · apply UInt16.toNat_inj.mp
      rw [hapidVal, ← hentry, List.getD_eq_getElem _ _ (by omega)]
    · intro j hj hsame
      have hlast := hfirst j hj
      rw [List.getD_eq_getElem _ _ (by omega), hsame, hapidVal] at hlast
      exact hlast rfl
  have hnext : ((sctr + 1) &&& 0x3fff).toNat = (packetCount pkt + 1) % 2 ^ 14 := by
    have hlt := packetCount_lt pkt
    rw [UInt16.toNat_and, UInt16.toNat_add, hsctrVal]
    change (packetCount pkt + 1) % 2 ^ 16 &&& (2 ^ 14 - 1) = _
    rw [Nat.and_two_pow_sub_one_eq_mod]
    omega
  unfold check_pus_sequence
  rw [if_neg (by omega), hapid, bind_ok, hsctr, bind_ok]
  dsimp only
  rw [if_neg (by omega)]
  simp only [hsearch]
  refine ⟨_, _, rfl, ?_, ?_⟩
  · rw [← hsctrVal]
    by_cases hsame : sctr = (t.seq.getD i ⟨0, 0⟩).next
    · simp [hsame]
    · have hdiffer : sctr.toNat ≠ (t.seq.getD i ⟨0, 0⟩).next.toNat := by
        rwa [ne_eq, UInt16.toNat_inj]
      simp only [ne_eq, hsame, not_false_eq_true, ↓reduceIte, Option.isSome_some, hdiffer]
  · rw [List.getD_eq_getElem _ _ (by simp; omega)]
    simpa using hnext

/-! ### Verdicts over whole runs -/

/-- A packet whose count does not continue the latest earlier packet of the
same APID. -/
def OutOfSequence (earlier : List (List UInt8)) (pkt : List UInt8) : Prop :=
  ∃ previous, (earlier.filter fun p => packetApid p = packetApid pkt).getLast? = some previous ∧
    packetCount pkt ≠ (packetCount previous + 1) % 2 ^ 14

/-- Every packet of the run gets the verdict that the history of its own APID
calls for, and the same one that it gets without the other packets. -/
def VerdictsRight (pkts : List (List UInt8)) : Prop :=
  ∀ earlier pkt later, pkts = earlier ++ pkt :: later →
    ∃ t error after, check_all .empty earlier = .ok t ∧
      check_pus_sequence true pkt t = .ok (error, after) ∧
      (error.isSome ↔ OutOfSequence earlier pkt) ∧
      ∃ alone afterAlone,
        check_all .empty (earlier.filter fun p => packetApid p = packetApid pkt) = .ok alone ∧
        check_pus_sequence true pkt alone = .ok (error, afterAlone)

/-- A run has the right verdicts exactly when there is nothing to report in it:
the appended entry is never counted, so no later search finds it. -/
theorem check_pus_sequence_run_iff (pkts : List (List UInt8)) :
    VerdictsRight pkts ↔ ∀ earlier pkt later, pkts = earlier ++ pkt :: later → ¬ OutOfSequence earlier pkt := by
  constructor
  · intro hright earlier pkt later hsplit hout
    obtain ⟨t, error, after, hall, hcheck, hverdict, _⟩ := hright earlier pkt later hsplit
    obtain ⟨t', hall', hn⟩ := check_all_untracked earlier (t := .empty) rfl
    obtain ⟨after', hcheck', _⟩ := check_pus_sequence_untracked true pkt hn
    rw [hall', Except.ok.injEq] at hall
    subst hall
    rw [hcheck', Except.ok.injEq, Prod.mk.injEq] at hcheck
    rw [← hcheck.1] at hverdict
    simpa using hverdict.mpr hout
  · intro hnone earlier pkt later hsplit
    obtain ⟨t, hall, hn⟩ := check_all_untracked earlier (t := .empty) rfl
    obtain ⟨after, hcheck, _⟩ := check_pus_sequence_untracked true pkt hn
    obtain ⟨alone, hallAlone, hnAlone⟩ :=
      check_all_untracked (earlier.filter fun p => packetApid p = packetApid pkt) (t := .empty) rfl
    obtain ⟨afterAlone, hcheckAlone, _⟩ := check_pus_sequence_untracked true pkt hnAlone
    refine ⟨t, none, after, hall, hcheck, ?_, alone, afterAlone, hallAlone, hcheckAlone⟩
    simpa using hnone earlier pkt later hsplit

/-- Count 5 after count 0 of the same APID is not found. -/
theorem check_pus_sequence_misses_gap :
    (∀ pkt ∈ [[0x18, 0x01, 0xc0, 0x00, 0x00, 0x00], [0x18, 0x01, 0xc0, 0x05, 0x00, 0x00]],
      SPP_PKT_HDR_LEN ≤ pkt.length) ∧
    OutOfSequence [[0x18, 0x01, 0xc0, 0x00, 0x00, 0x00]] [0x18, 0x01, 0xc0, 0x05, 0x00, 0x00] ∧
    ¬ VerdictsRight [[0x18, 0x01, 0xc0, 0x00, 0x00, 0x00], [0x18, 0x01, 0xc0, 0x05, 0x00, 0x00]] := by
  have hout : OutOfSequence [[0x18, 0x01, 0xc0, 0x00, 0x00, 0x00]] [0x18, 0x01, 0xc0, 0x05, 0x00, 0x00] :=
    ⟨[0x18, 0x01, 0xc0, 0x00, 0x00, 0x00], by decide, by decide⟩
  refine ⟨by decide, hout, ?_⟩
  intro hright
  obtain ⟨t, error, after, hall, hcheck, hverdict, _⟩ := hright
    [[0x18, 0x01, 0xc0, 0x00, 0x00, 0x00]] [0x18, 0x01, 0xc0, 0x05, 0x00, 0x00] [] rfl
  have hfirst : check_all .empty [[0x18, 0x01, 0xc0, 0x00, 0x00, 0x00]] =
      .ok ⟨[⟨1, 1⟩], 0, by decide⟩ := rfl
  rw [hfirst, Except.ok.injEq] at hall
  subst hall
  have hsecond : check_pus_sequence true [0x18, 0x01, 0xc0, 0x05, 0x00, 0x00] ⟨[⟨1, 1⟩], 0, by decide⟩ =
      .ok (none, ⟨[⟨1, 6⟩], 0, by decide⟩) := rfl
  rw [hsecond, Except.ok.injEq, Prod.mk.injEq] at hcheck
  rw [← hcheck.1] at hverdict
  simpa using hverdict.mpr hout

end spw_bridge.net
