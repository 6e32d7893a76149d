import Mathlib.Data.List.Infix

namespace framing

variable {α : Type}

/-- A self-delimiting format: the first `hdr` symbols of a frame determine its
whole size. -/
structure Format (α : Type) where
  hdr : Nat
  size : List α → Nat
  hdr_pos : 0 < hdr
  hdr_le : ∀ front, hdr ≤ size front

variable (F : Format α)

/-- A string that is as long as its own header says. -/
def Format.IsFrame (frame : List α) : Prop := F.size (frame.take F.hdr) = frame.length

/-- A string that begins with a whole frame. -/
def Format.Starts (s : List α) : Prop := F.hdr ≤ s.length ∧ F.size (s.take F.hdr) ≤ s.length

instance (frame : List α) : Decidable (F.IsFrame frame) := inferInstanceAs (Decidable (_ = _))

instance (s : List α) : Decidable (F.Starts s) := inferInstanceAs (Decidable (_ ∧ _))

/-- Cut a string into frames by their own length fields, as far as whole frames
go. -/
def Format.divide (s : List α) : List (List α) :=
  if F.Starts s then
    s.take (F.size (s.take F.hdr)) :: Format.divide (s.drop (F.size (s.take F.hdr)))
  else []
termination_by s.length
decreasing_by
  have hpos := F.hdr_pos
  have hle := F.hdr_le (s.take F.hdr)
  rename_i hstarts
  have hhdr := hstarts.1
  simp only [List.length_drop]
  omega

/-- A division of a string: frames, and a rest without another whole frame. -/
structure Format.IsDivision (s : List α) (frames : List (List α)) (rest : List α) : Prop where
  whole : s = frames.flatten ++ rest
  frames : ∀ frame ∈ frames, F.IsFrame frame
  rest : ¬ F.Starts rest

variable {F}

theorem Format.IsFrame.hdr_le_length {frame : List α} (hframe : F.IsFrame frame) : F.hdr ≤ frame.length := by
  rw [← hframe]
  exact F.hdr_le _

theorem Format.IsFrame.take_hdr {frame : List α} (hframe : F.IsFrame frame) (s : List α) :
    (frame ++ s).take F.hdr = frame.take F.hdr :=
  List.take_append_of_le_length hframe.hdr_le_length

theorem Format.IsFrame.starts {frame : List α} (hframe : F.IsFrame frame) (s : List α) : F.Starts (frame ++ s) := by
  have hle := hframe.hdr_le_length
  refine ⟨?_, ?_⟩
  · rw [List.length_append]
    omega
  · rw [hframe.take_hdr, hframe, List.length_append]
    omega

/-- The front of a string that starts with a frame is that frame. -/
theorem Format.Starts.isFrame {s : List α} (hstarts : F.Starts s) :
    F.IsFrame (s.take (F.size (s.take F.hdr))) := by
  obtain ⟨hhdr, hsize⟩ := hstarts
  unfold Format.IsFrame
  rw [List.take_take, Nat.min_eq_left (F.hdr_le _), List.length_take, Nat.min_eq_left hsize]

/-- A front of a string that is as long as the header of the string says. -/
theorem Format.isFrame_of_front {front : List α} (rest : List α)
    (hlength : front.length = F.size ((front ++ rest).take F.hdr)) : F.IsFrame front := by
  have hle : F.hdr ≤ front.length := by
    rw [hlength]
    exact F.hdr_le _
  rw [Format.IsFrame, hlength, List.take_append_of_le_length hle]

theorem Format.divide_of_starts {s : List α} (hstarts : F.Starts s) :
    F.divide s = s.take (F.size (s.take F.hdr)) :: F.divide (s.drop (F.size (s.take F.hdr))) := by
  rw [Format.divide, if_pos hstarts]

theorem Format.divide_of_not_starts {s : List α} (hstarts : ¬ F.Starts s) : F.divide s = [] := by
  rw [Format.divide, if_neg hstarts]

/-- A leading frame is cut off whole. -/
theorem Format.divide_frame_append {frame : List α} (hframe : F.IsFrame frame) (s : List α) :
    F.divide (frame ++ s) = frame :: F.divide s := by
  have hsize : F.size ((frame ++ s).take F.hdr) = frame.length := by rw [hframe.take_hdr, hframe]
  rw [Format.divide_of_starts (hframe.starts s), hsize, List.take_left, List.drop_left]

theorem Format.divide_flatten_append {frames : List (List α)} (hframes : ∀ frame ∈ frames, F.IsFrame frame)
    (s : List α) : F.divide (frames.flatten ++ s) = frames ++ F.divide s := by
  induction frames with
  | nil => simp
  | cons frame frames ih =>
    rw [List.flatten_cons, List.append_assoc, Format.divide_frame_append (hframes frame List.mem_cons_self),
      ih fun other hother => hframes other (List.mem_cons_of_mem _ hother), List.cons_append]

/-- The empty string has no frames. -/
theorem Format.not_starts_nil : ¬ F.Starts ([] : List α) := by
  rintro ⟨hhdr, _⟩
  have hpos := F.hdr_pos
  simp only [List.length_nil] at hhdr
  omega

/-- Frames put together are found again. -/
theorem Format.divide_flatten {frames : List (List α)} (hframes : ∀ frame ∈ frames, F.IsFrame frame) :
    F.divide frames.flatten = frames := by
  have hdivide := Format.divide_flatten_append hframes []
  rwa [List.append_nil, Format.divide_of_not_starts Format.not_starts_nil, List.append_nil] at hdivide

/-- Every string has a division. -/
theorem Format.divide_isDivision (s : List α) : ∃ rest, F.IsDivision s (F.divide s) rest := by
  induction s using Format.divide.induct (F := F) with
  | case1 s hstarts ih =>
    obtain ⟨rest, hrest⟩ := ih
    rw [Format.divide_of_starts hstarts]
    refine ⟨rest, ?_, ?_, hrest.rest⟩
    · rw [List.flatten_cons, List.append_assoc, ← hrest.whole, List.take_append_drop]
    · intro frame hframe
      rcases List.mem_cons.mp hframe with rfl | hframe
      · exact hstarts.isFrame
      · exact hrest.frames frame hframe
  | case2 s hstarts =>
    rw [Format.divide_of_not_starts hstarts]
    exact ⟨s, rfl, by simp, hstarts⟩

/-- It has no other one. -/
theorem Format.IsDivision.unique {s rest : List α} {frames : List (List α)}
    (hdivision : F.IsDivision s frames rest) : frames = F.divide s := by
  rw [hdivision.whole, Format.divide_flatten_append hdivision.frames,
    Format.divide_of_not_starts hdivision.rest, List.append_nil]

/-- Frames that a string begins with are the first ones of its division. -/
theorem Format.prefix_divide {frames : List (List α)} {s : List α}
    (hframes : ∀ frame ∈ frames, F.IsFrame frame) (hbegins : frames.flatten <+: s) :
    frames <+: F.divide s := by
  obtain ⟨rest, rfl⟩ := hbegins
  rw [Format.divide_flatten_append hframes]
  exact List.prefix_append _ _

/-! ### Cuts of a string of frames -/

/-- No cut lies strictly inside the header of a frame. `frames` and `pieces` cut
up the ends of one string, so that positions are counted from its end; the
string may have more before the first piece. -/
def Format.Uncut (F : Format α) (frames pieces : List (List α)) : Prop :=
  ∀ fs, fs <:+ frames → ∀ ps, ps <:+ pieces →
    fs.flatten.length ≤ ps.flatten.length ∨ ps.flatten.length + F.hdr ≤ fs.flatten.length

instance (frames pieces : List (List α)) : Decidable (F.Uncut frames pieces) :=
  decidable_of_iff
    (∀ fs ∈ frames.tails, ∀ ps ∈ pieces.tails,
      fs.flatten.length ≤ ps.flatten.length ∨ ps.flatten.length + F.hdr ≤ fs.flatten.length)
    (by simp only [List.mem_tails, Format.Uncut])

theorem Format.Uncut.suffix {frames frames' pieces pieces' : List (List α)} (huncut : F.Uncut frames pieces)
    (hframes : frames' <:+ frames) (hpieces : pieces' <:+ pieces) : F.Uncut frames' pieces' :=
  fun fs hfs ps hps => huncut fs (hfs.trans hframes) ps (hps.trans hpieces)

/-- A string in one piece has no cuts. -/
theorem Format.uncut_nil {frames : List (List α)} (hframes : ∀ frame ∈ frames, F.IsFrame frame) :
    F.Uncut frames [] := by
  intro fs hfs ps hps
  obtain rfl := List.suffix_nil.mp hps
  cases fs with
  | nil => exact Or.inl (Nat.le_refl _)
  | cons frame fs =>
    right
    have hle := (hframes frame (hfs.mem List.mem_cons_self)).hdr_le_length
    simp only [List.flatten_cons, List.length_append, List.flatten_nil, List.length_nil]
    omega

end framing
