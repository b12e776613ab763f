import Esp32Robot.Base.Memory

/-!
# Blocks with a length in front

A byte array of C that is read and written at `int` offsets, and lists of blocks
that stand in it one after the other: a block is a 32-bit signed number, the bytes
that the block takes with that number, and its payload.
-/

namespace Esp32Robot.Base

/-- The bytes at the offsets from the start of an array. -/
abbrev Cells := Int → UInt8

namespace Cells

/-- The bytes from an offset on. -/
def bytesAt (mem : Cells) (p : Int) (n : Nat) : List UInt8 :=
  (List.range n).map (fun k : Nat ↦ mem (p + k))

/-- Write bytes from an offset on. -/
def write (mem : Cells) (p : Int) (bytes : List UInt8) : Cells :=
  fun i ↦ if p ≤ i then (bytes[(i - p).toNat]?).getD (mem i) else mem i

/-- `*(int *)(array + p)`. -/
def loadInt (mem : Cells) (p : Int) : Int :=
  (leWord (mem p) (mem (p + 1)) (mem (p + 2)) (mem (p + 3))).toBitVec.toInt

/-- `*(int *)(array + p) = v`. -/
def storeInt (mem : Cells) (p v : Int) : Cells :=
  mem.write p (leBytes (UInt32.ofBitVec (BitVec.ofInt 32 v)))

variable {mem mem' : Cells} {p : Int} {bytes : List UInt8}

/-- As many bytes as asked for. -/
@[simp] theorem length_bytesAt (mem : Cells) (p : Int) (n : Nat) :
    (mem.bytesAt p n).length = n := by
  simp [bytesAt]

/-- A range depends on its own bytes only. -/
theorem bytesAt_congr {n : Nat} (h : ∀ i, p ≤ i → i < p + n → mem' i = mem i) :
    mem'.bytesAt p n = mem.bytesAt p n := by
  apply List.map_congr_left
  intro k hk
  have hk := List.mem_range.mp hk
  exact h (p + k) (by omega) (by omega)

/-- A write leaves the bytes outside its range. -/
theorem write_outside {i : Int} (hi : i < p ∨ p + bytes.length ≤ i) :
    mem.write p bytes i = mem i := by
  unfold write
  split
  · rw [List.getElem?_eq_none (by omega), Option.getD_none]
  · rfl

/-- A written byte. -/
theorem write_inside {k : Nat} (hk : k < bytes.length) : mem.write p bytes (p + k) = bytes[k] := by
  have htoNat : (p + k - p).toNat = k := by omega
  simp only [write]
  rw [if_pos (by omega), htoNat, List.getElem?_eq_getElem hk, Option.getD_some]

/-- A number read depends on its own four bytes only. -/
theorem loadInt_congr (h : ∀ i, p ≤ i → i < p + 4 → mem' i = mem i) :
    mem'.loadInt p = mem.loadInt p := by
  unfold loadInt
  rw [h p (by omega) (by omega), h (p + 1) (by omega) (by omega), h (p + 2) (by omega) (by omega),
    h (p + 3) (by omega) (by omega)]

/-- Storing a number changes its four bytes only. -/
theorem storeInt_outside {v i : Int} (hi : i < p ∨ p + 4 ≤ i) : mem.storeInt p v i = mem i :=
  write_outside (by simpa using hi)

/-- A number of 32 bits is read back. -/
theorem loadInt_storeInt {v : Int} (hlow : 0 ≤ v) (hhigh : v < 2147483648) :
    (mem.storeInt p v).loadInt p = v := by
  have hbyte (k : Nat) (hk : k < 4) :=
    @write_inside mem p (leBytes (UInt32.ofBitVec (BitVec.ofInt 32 v))) k hk
  have h₀ : mem.storeInt p v (p + 0) = _ := hbyte 0 (by omega)
  have h₁ : mem.storeInt p v (p + 1) = _ := hbyte 1 (by omega)
  have h₂ : mem.storeInt p v (p + 2) = _ := hbyte 2 (by omega)
  have h₃ : mem.storeInt p v (p + 3) = _ := hbyte 3 (by omega)
  have hword : leWord (mem.storeInt p v p) (mem.storeInt p v (p + 1)) (mem.storeInt p v (p + 2))
      (mem.storeInt p v (p + 3)) = UInt32.ofBitVec (BitVec.ofInt 32 v) := by
    rw [Int.add_zero] at h₀
    rw [h₀, h₁, h₂, h₃]
    exact leWord_leBytes _
  rw [loadInt, hword]
  have hbits : (UInt32.ofBitVec (BitVec.ofInt 32 v)).toBitVec = BitVec.ofInt 32 v := rfl
  rw [hbits, BitVec.toInt_ofInt]
  exact Int.bmod_eq_of_le (by omega) (by omega)

end Cells

/-- The bytes that blocks take with their lengths. -/
def span : List (List UInt8) → Int
  | [] => 0
  | b :: bs => 4 + b.length + span bs

/-- From an offset on, up to another one, stand the blocks. -/
def Chain (mem : Cells) : Int → List (List UInt8) → Int → Prop
  | p, [], e => p = e
  | p, b :: bs, e =>
    mem.loadInt p = 4 + b.length ∧ mem.bytesAt (p + 4) b.length = b ∧
      Chain mem (p + (4 + b.length)) bs e

section Chain

variable {mem mem' : Cells} {p e : Int} {b : List UInt8} {bs cs : List (List UInt8)}

/-- No blocks take no bytes. -/
@[simp] theorem span_nil : span [] = 0 := rfl

/-- The first block and the rest. -/
@[simp] theorem span_cons : span (b :: bs) = 4 + b.length + span bs := rfl

/-- Blocks one after the other. -/
@[simp] theorem span_append : span (bs ++ cs) = span bs + span cs := by
  induction bs with
  | nil => simp
  | cons b bs ih =>
    rw [List.cons_append, span_cons, span_cons, ih]
    omega

/-- Blocks do not take a negative number of bytes. -/
theorem span_nonneg : 0 ≤ span bs := by
  induction bs with
  | nil => exact Int.le_refl _
  | cons b bs ih =>
    rw [span_cons]
    omega

/-- Blocks take at least the bytes of their lengths. -/
theorem length_le_span : 4 * (bs.length : Int) ≤ span bs := by
  induction bs with
  | nil => simp
  | cons b bs ih =>
    rw [span_cons, List.length_cons]
    omega

/-- Blocks end as many bytes behind their start as they take. -/
theorem Chain.end_eq (h : Chain mem p bs e) : e = p + span bs := by
  induction bs generalizing p with
  | nil =>
    have hp : p = e := h
    simp [hp]
  | cons b bs ih =>
    have := ih h.2.2
    rw [span_cons]
    omega

/-- Blocks end at their start only when there are none. -/
theorem Chain.eq_nil_iff (h : Chain mem p bs e) : bs = [] ↔ p = e := by
  have hend := h.end_eq
  constructor
  · rintro rfl
    rw [hend, span_nil, Int.add_zero]
  · intro hp
    cases bs with
    | nil => rfl
    | cons b bs =>
      rw [span_cons] at hend
      have := @span_nonneg bs
      omega

/-- Some blocks end behind their start. -/
theorem Chain.lt_end (h : Chain mem p bs e) (hne : bs ≠ []) : p < e := by
  have hdistinct : p ≠ e := fun hp ↦ hne (h.eq_nil_iff.mpr hp)
  have hend := h.end_eq
  have := @span_nonneg bs
  omega

/-- Blocks depend on their own bytes only. -/
theorem Chain.congr (h : Chain mem p bs e) (hsame : ∀ i, p ≤ i → i < e → mem' i = mem i) :
    Chain mem' p bs e := by
  induction bs generalizing p with
  | nil => exact h
  | cons b bs ih =>
    have hend := h.end_eq
    rw [span_cons] at hend
    have hspan := @span_nonneg bs
    obtain ⟨hlength, hbytes, hrest⟩ := h
    refine ⟨?_, ?_, ih hrest fun i hlow hhigh ↦ hsame i (by omega) hhigh⟩
    · rw [Cells.loadInt_congr fun i hlow hhigh ↦ hsame i hlow (by omega), hlength]
    · rw [Cells.bytesAt_congr fun i hlow hhigh ↦ hsame i (by omega) (by omega), hbytes]

/-- A block behind the blocks. -/
theorem Chain.concat (h : Chain mem p bs e) (hlength : mem.loadInt e = 4 + b.length)
    (hbytes : mem.bytesAt (e + 4) b.length = b) : Chain mem p (bs ++ [b]) (e + (4 + b.length)) := by
  induction bs generalizing p with
  | nil =>
    have hp : p = e := h
    subst hp
    exact ⟨hlength, hbytes, rfl⟩
  | cons c bs ih => exact ⟨h.1, h.2.1, ih h.2.2⟩

end Chain

end Esp32Robot.Base
