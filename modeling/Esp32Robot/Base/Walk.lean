/-!
# Walks over a buffer

General support for a buffer that is read piece by piece, where the length of a
piece follows from what stands at its start, and a length of 0 ends the walk; and
for a log of the pieces when one pass over the buffer follows the other.
-/

namespace Esp32Robot.Base

universe u

/-! ### One pass -/

/-- The first pieces from a position on, by position and length. -/
def walk (len : Nat → Nat) : Nat → Nat → List (Nat × Nat)
  | 0, _ => []
  | fuel + 1, pos => if len pos = 0 then [] else (pos, len pos) :: walk len fuel (pos + len pos)

/-- All pieces from a position on, in a buffer of this size. -/
def walkFrom (len : Nat → Nat) (size pos : Nat) : List (Nat × Nat) := walk len (size - pos) pos

/-- No piece goes over the end of the buffer. -/
def Bounded (len : Nat → Nat) (size : Nat) : Prop := ∀ pos, len pos ≠ 0 → pos + len pos ≤ size

/-- Each piece starts where the one before it ends, is not empty, and has the length at its
start. -/
def Consecutive (len : Nat → Nat) : Nat → List (Nat × Nat) → Prop
  | _, [] => True
  | pos, p :: rest => p.1 = pos ∧ p.2 = len pos ∧ 0 < p.2 ∧ Consecutive len (pos + p.2) rest

section Walk

variable {len : Nat → Nat} {size pos : Nat}

/-- Behind the buffer there is no piece. -/
theorem Bounded.eq_zero (h : Bounded len size) (hpos : size ≤ pos) : len pos = 0 := by
  by_cases hlen : len pos = 0
  · exact hlen
  · have := h pos hlen
    omega

/-- A walk does not depend on its fuel when that is enough for pieces of one byte. -/
theorem walk_congr (h : Bounded len size) {a b : Nat} (ha : size - pos ≤ a) (hb : size - pos ≤ b) :
    walk len a pos = walk len b pos := by
  induction a generalizing b pos with
  | zero =>
    have hlen := h.eq_zero (show size ≤ pos by omega)
    cases b <;> simp [walk, hlen]
  | succ a ih =>
    by_cases hlen : len pos = 0
    · cases b <;> simp [walk, hlen]
    · have hpos := h pos hlen
      cases b with
      | zero => omega
      | succ b =>
        rw [walk, walk, if_neg hlen, if_neg hlen]
        congr 1
        apply ih <;> omega

/-- The walk from a position is its piece and the walk from behind it. -/
theorem walkFrom_eq (h : Bounded len size) (pos : Nat) :
    walkFrom len size pos =
      if len pos = 0 then [] else (pos, len pos) :: walkFrom len size (pos + len pos) := by
  have hfuel : walkFrom len size pos = walk len (size - pos + 1) pos :=
    walk_congr h (Nat.le_refl _) (Nat.le_succ _)
  rw [hfuel, walk]
  split
  · rfl
  · next hlen =>
    congr 1
    apply walk_congr h <;> omega

/-- A walk from behind the buffer is empty. -/
theorem walkFrom_end (h : Bounded len size) (hpos : size ≤ pos) : walkFrom len size pos = [] := by
  rw [walkFrom_eq h, if_pos (h.eq_zero hpos)]

/-- The pieces of a walk are consecutive, also for lengths that agree with its own where those are
not 0. -/
theorem consecutive_walk {len' : Nat → Nat} (h : ∀ pos, len pos ≠ 0 → len' pos = len pos)
    (fuel pos : Nat) : Consecutive len' pos (walk len fuel pos) := by
  induction fuel generalizing pos with
  | zero => trivial
  | succ fuel ih =>
    rw [walk]
    split
    · trivial
    · next hlen => exact ⟨rfl, (h pos hlen).symm, Nat.pos_of_ne_zero hlen, ih _⟩

/-- Consecutive pieces lie behind the position where they start. -/
theorem Consecutive.le {pieces : List (Nat × Nat)} (h : Consecutive len pos pieces) :
    ∀ p ∈ pieces, pos ≤ p.1 := by
  induction pieces generalizing pos with
  | nil => exact List.forall_mem_nil _
  | cons p rest ih =>
    obtain ⟨hp, _, _, hrest⟩ := h
    intro q hq
    cases hq with
    | head => omega
    | tail _ hq =>
      have := ih hrest q hq
      omega

/-- Each of the consecutive pieces has the length at its start. -/
theorem Consecutive.mem {pieces : List (Nat × Nat)} (h : Consecutive len pos pieces) :
    ∀ p ∈ pieces, p.2 = len p.1 ∧ 0 < p.2 := by
  induction pieces generalizing pos with
  | nil => exact List.forall_mem_nil _
  | cons p rest ih =>
    obtain ⟨rfl, hlen, hpos, hrest⟩ := h
    exact List.forall_mem_cons.mpr ⟨⟨hlen, hpos⟩, ih hrest⟩

/-- Consecutive pieces do not overlap. -/
theorem Consecutive.apart {pieces : List (Nat × Nat)} (h : Consecutive len pos pieces) :
    pieces.Pairwise (fun p q ↦ p.1 + p.2 ≤ q.1) := by
  induction pieces generalizing pos with
  | nil => exact List.Pairwise.nil
  | cons p rest ih =>
    obtain ⟨hp, _, _, hrest⟩ := h
    refine List.Pairwise.cons ?_ (ih hrest)
    intro q hq
    rw [hp]
    exact hrest.le q hq

end Walk

/-! ### Pieces that a buffer is made of -/

section Holds

variable {α : Type u} {bytes : Nat → α} {pos : Nat}

/-- The buffer holds this row of elements at a position. -/
def Holds (bytes : Nat → α) : Nat → List α → Prop
  | _, [] => True
  | pos, a :: rest => bytes pos = a ∧ Holds bytes (pos + 1) rest

/-- The elements of a piece. -/
def slice (bytes : Nat → α) (p : Nat × Nat) : List α := (List.range' p.1 p.2).map bytes

/-- A buffer holds two rows one behind the other. -/
theorem holds_append {a b : List α} :
    Holds bytes pos (a ++ b) ↔ Holds bytes pos a ∧ Holds bytes (pos + a.length) b := by
  induction a generalizing pos with
  | nil => simp [Holds]
  | cons x a ih =>
    simp only [List.cons_append, Holds, ih, List.length_cons, and_assoc]
    rw [Nat.add_assoc, Nat.add_comm 1]

/-- An element of a row that the buffer holds. -/
theorem Holds.getElem? {a : List α} (h : Holds bytes pos a) {i : Nat} (hi : i < a.length) :
    a[i]? = some (bytes (pos + i)) := by
  induction a generalizing pos i with
  | nil => exact absurd hi (Nat.not_lt_zero i)
  | cons x a ih =>
    obtain ⟨rfl, ha⟩ := h
    cases i with
    | zero => rfl
    | succ i =>
      rw [List.getElem?_cons_succ, ih ha (Nat.lt_of_succ_lt_succ hi)]
      congr 2
      omega

/-- A row that the buffer holds is the piece of its length. -/
theorem slice_of_holds {a : List α} (h : Holds bytes pos a) : slice bytes (pos, a.length) = a := by
  induction a generalizing pos with
  | nil => rfl
  | cons x a ih =>
    obtain ⟨hx, ha⟩ := h
    have htail := ih ha
    simp only [slice, List.length_cons, List.range'_succ, List.map_cons] at htail ⊢
    rw [hx, htail]

/-- A buffer that is a concatenation of frames, each of which tells its own length, is walked frame
by frame. -/
theorem walkFrom_frames {len : Nat → Nat} {size : Nat} (h : Bounded len size)
    {frames : List (List α)} (hholds : Holds bytes pos frames.flatten)
    (hsize : size = pos + frames.flatten.length)
    (hlen : ∀ f ∈ frames, f ≠ [] ∧
      ∀ p, Holds bytes p f → p + f.length ≤ size → len p = f.length) :
    (walkFrom len size pos).map (slice bytes) = frames := by
  induction frames generalizing pos with
  | nil =>
    rw [walkFrom_end h (by simp [hsize])]
    rfl
  | cons f frames ih =>
    rw [List.flatten_cons, List.length_append] at hsize
    rw [List.flatten_cons, holds_append] at hholds
    obtain ⟨hne, hf⟩ := hlen f List.mem_cons_self
    have hpiece : len pos = f.length := hf pos hholds.1 (by omega)
    have hpos : 0 < f.length := List.length_pos_iff.mpr hne
    rw [walkFrom_eq h, if_neg (by omega), hpiece, List.map_cons, slice_of_holds hholds.1]
    congr 1
    apply ih hholds.2 (by omega)
    intro g hg
    exact hlen g (List.mem_cons_of_mem f hg)

end Holds

/-! ### One pass after the other -/

section Rounds

variable {α : Type u} {pass log rest : List α} {a : α}

/-- The log is whole passes and the beginning of one, of which this is left. -/
def Rounds (pass log rest : List α) : Prop :=
  ∃ n pre, pass = pre ++ rest ∧ log = (List.replicate n pass).flatten ++ pre

/-- Nothing is logged before the first pass. -/
theorem rounds_nil (pass : List α) : Rounds pass [] pass := ⟨0, [], rfl, rfl⟩

/-- The next element of the pass is logged. -/
theorem Rounds.next (h : Rounds pass log (a :: rest)) : Rounds pass (log ++ [a]) rest := by
  obtain ⟨n, pre, hpass, hlog⟩ := h
  refine ⟨n, pre ++ [a], ?_, ?_⟩
  · rw [hpass, List.append_assoc, List.singleton_append]
  · rw [hlog, List.append_assoc]

/-- A pass that is over begins again. -/
theorem Rounds.again (h : Rounds pass log []) : Rounds pass log pass := by
  obtain ⟨n, pre, hpass, hlog⟩ := h
  rw [List.append_nil] at hpass
  refine ⟨n + 1, [], rfl, ?_⟩
  rw [hlog, List.replicate_succ', List.flatten_append, ← hpass]
  simp

end Rounds

end Esp32Robot.Base
