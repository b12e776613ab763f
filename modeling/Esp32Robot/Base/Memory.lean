/-!
# Byte memory with an access log

A block memory in the manner of C: each buffer is a block, a pointer is a block
and a 32-bit offset into it, and offset arithmetic is that of `UInt32`, so it
wraps as on a 32-bit target. Bytes outside a buffer's size are ordinary cells
with arbitrary contents; whether an access stays inside is a fact about the log.
-/

namespace Esp32Robot.Base

universe u

/-- Little-endian 32-bit word of four bytes, the first byte lowest. -/
def leWord (b₀ b₁ b₂ b₃ : UInt8) : UInt32 :=
  UInt32.ofNat (b₀.toNat + 256 * b₁.toNat + 65536 * b₂.toNat + 16777216 * b₃.toNat)

/-- The four bytes of a 32-bit word, lowest first. -/
def leBytes (w : UInt32) : List UInt8 :=
  [UInt8.ofNat w.toNat, UInt8.ofNat (w.toNat / 256), UInt8.ofNat (w.toNat / 65536),
    UInt8.ofNat (w.toNat / 16777216)]

/-- A word has four bytes. -/
@[simp] theorem length_leBytes (w : UInt32) : (leBytes w).length = 4 := rfl

/-- The numeric value of a word read from four bytes. -/
theorem toNat_leWord (b₀ b₁ b₂ b₃ : UInt8) :
    (leWord b₀ b₁ b₂ b₃).toNat =
      b₀.toNat + 256 * b₁.toNat + 65536 * b₂.toNat + 16777216 * b₃.toNat := by
  have h₀ := b₀.toNat_lt
  have h₁ := b₁.toNat_lt
  have h₂ := b₂.toNat_lt
  have h₃ := b₃.toNat_lt
  simp only [leWord, UInt32.toNat_ofNat']
  omega

/-- Reading back the bytes of a word recovers it. -/
theorem leWord_leBytes (w : UInt32) :
    leWord (UInt8.ofNat w.toNat) (UInt8.ofNat (w.toNat / 256))
      (UInt8.ofNat (w.toNat / 65536)) (UInt8.ofNat (w.toNat / 16777216)) = w := by
  have hw := w.toNat_lt
  apply UInt32.toNat_inj.mp
  rw [toNat_leWord]
  simp only [UInt8.toNat_ofNat']
  omega

/-- Contents of every block at every offset. -/
abbrev Mem (β : Type u) := β → Nat → UInt8

/-- Whether an access reads or writes. -/
inductive AccessKind where
  | read
  | write
  deriving DecidableEq, Repr

/-- One access: `size` bytes from `offset` of `block`. -/
structure Access (β : Type u) where
  kind : AccessKind
  block : β
  offset : UInt32
  size : UInt32
  deriving DecidableEq, Repr

/-- The access touches only the first `n` bytes of block `b`. -/
def Access.Within {β : Type u} (a : Access β) (b : β) (n : UInt32) : Prop :=
  a.block = b ∧ a.offset.toNat + a.size.toNat ≤ n.toNat

instance {β : Type u} [DecidableEq β] (a : Access β) (b : β) (n : UInt32) :
    Decidable (a.Within b n) :=
  inferInstanceAs (Decidable (_ ∧ _))

/-- The access touches byte `i` of block `b`. -/
def Access.Covers {β : Type u} (a : Access β) (b : β) (i : Nat) : Prop :=
  a.block = b ∧ a.offset.toNat ≤ i ∧ i < a.offset.toNat + a.size.toNat

/-- Some of the accesses writes byte `i` of block `b`. -/
def Written {β : Type u} (log : List (Access β)) (b : β) (i : Nat) : Prop :=
  ∃ a ∈ log, a.kind = .write ∧ a.Covers b i

/-- Memory together with the accesses made so far, oldest first. -/
structure Heap (β : Type u) where
  mem : Mem β
  log : List (Access β)

namespace Heap

variable {β : Type u}

/-- Read a 32-bit little-endian word: `memcpy(&word, block + offset, 4)`. -/
def load32 (h : Heap β) (b : β) (offset : UInt32) : UInt32 × Heap β :=
  let i := offset.toNat
  (leWord (h.mem b i) (h.mem b (i + 1)) (h.mem b (i + 2)) (h.mem b (i + 3)),
    { h with log := h.log ++ [⟨.read, b, offset, 4⟩] })

/-- Read `n` bytes. -/
def loadBytes (h : Heap β) (b : β) (offset : UInt32) (n : Nat) : List UInt8 × Heap β :=
  ((List.range n).map (fun k ↦ h.mem b (offset.toNat + k)),
    { h with log := h.log ++ [⟨.read, b, offset, UInt32.ofNat n⟩] })

section Reads

variable (h : Heap β) (b : β) (offset : UInt32)

/-- Reading a word logs its four bytes. -/
@[simp] theorem log_load32 :
    (h.load32 b offset).2.log = h.log ++ [⟨.read, b, offset, 4⟩] := rfl

/-- Reading bytes logs the whole range. -/
@[simp] theorem log_loadBytes (n : Nat) :
    (h.loadBytes b offset n).2.log = h.log ++ [⟨.read, b, offset, UInt32.ofNat n⟩] := rfl

/-- A word read from the four bytes of a word is that word. -/
theorem load32_eq_of {w : UInt32}
    (he : ∀ k (hk : k < (leBytes w).length), h.mem b (offset.toNat + k) = (leBytes w)[k]) :
    (h.load32 b offset).1 = w := by
  have h₀ := he 0 (by simp)
  have h₁ := he 1 (by simp)
  have h₂ := he 2 (by simp)
  have h₃ := he 3 (by simp)
  rw [Nat.add_zero] at h₀
  simp only [load32]
  rw [h₀, h₁, h₂, h₃]
  exact leWord_leBytes w

/-- A byte list read from the cells that hold it is that list. -/
theorem loadBytes_eq_of {bytes : List UInt8}
    (he : ∀ k (hk : k < bytes.length), h.mem b (offset.toNat + k) = bytes[k]) :
    (h.loadBytes b offset bytes.length).1 = bytes := by
  apply List.ext_getElem
  · simp [loadBytes]
  · intro k hk hk'
    simp only [loadBytes, List.getElem_map, List.getElem_range]
    exact he k hk'

end Reads

variable [DecidableEq β]

/-- Write a list of bytes. -/
def storeBytes (h : Heap β) (b : β) (offset : UInt32) (bytes : List UInt8) : Heap β where
  mem := fun c i ↦
    if c = b ∧ offset.toNat ≤ i then (bytes[i - offset.toNat]?).getD (h.mem c i) else h.mem c i
  log := h.log ++ [⟨.write, b, offset, UInt32.ofNat bytes.length⟩]

/-- Write a 32-bit little-endian word: `memcpy(block + offset, &word, 4)`. -/
def store32 (h : Heap β) (b : β) (offset w : UInt32) : Heap β := h.storeBytes b offset (leBytes w)

/-- Copy `size` bytes between buffers. Every source byte is taken from the state before
the copy, which is `memmove` on overlapping ranges and `memcpy` on disjoint ones. -/
def copy (h : Heap β) (dst : β) (dstOffset : UInt32) (src : β) (srcOffset size : UInt32) :
    Heap β where
  mem := fun c i ↦
    if c = dst ∧ dstOffset.toNat ≤ i ∧ i < dstOffset.toNat + size.toNat then
      h.mem src (srcOffset.toNat + (i - dstOffset.toNat))
    else h.mem c i
  log := h.log ++ [⟨.read, src, srcOffset, size⟩, ⟨.write, dst, dstOffset, size⟩]

variable (h : Heap β) (b c : β) (offset : UInt32)

/-- Writing bytes logs the whole range. -/
@[simp] theorem log_storeBytes (bytes : List UInt8) :
    (h.storeBytes b offset bytes).log =
      h.log ++ [⟨.write, b, offset, UInt32.ofNat bytes.length⟩] := rfl

/-- Writing a word logs its four bytes. -/
@[simp] theorem log_store32 (w : UInt32) :
    (h.store32 b offset w).log = h.log ++ [⟨.write, b, offset, 4⟩] := rfl

/-- Copying logs the source range as read, then the destination range as written. -/
@[simp] theorem log_copy (dstOffset size : UInt32) :
    (h.copy c dstOffset b offset size).log =
      h.log ++ [⟨.read, b, offset, size⟩, ⟨.write, c, dstOffset, size⟩] := rfl

/-- Another block, and bytes before a write, keep their contents. -/
theorem mem_storeBytes_outside {bytes : List UInt8} {i : Nat} (hi : c ≠ b ∨ i < offset.toNat) :
    (h.storeBytes b offset bytes).mem c i = h.mem c i := by
  simp only [storeBytes]
  rw [if_neg]
  rintro ⟨hc, hlo⟩
  rcases hi with hi | hi
  · exact hi hc
  · omega

/-- A written byte is the corresponding list entry. -/
theorem mem_storeBytes_inside {bytes : List UInt8} {k : Nat} (hk : k < bytes.length) :
    (h.storeBytes b offset bytes).mem b (offset.toNat + k) = bytes[k] := by
  simp only [storeBytes, true_and, Nat.le_add_right, if_true, Nat.add_sub_cancel_left]
  rw [List.getElem?_eq_getElem hk, Option.getD_some]

/-- Another block, and bytes before the destination, keep their contents. -/
theorem mem_copy_outside {dstOffset size : UInt32} {i : Nat} {d : β}
    (hi : d ≠ c ∨ i < dstOffset.toNat) :
    (h.copy c dstOffset b offset size).mem d i = h.mem d i := by
  simp only [copy]
  rw [if_neg]
  rintro ⟨hd, hlo, hhi⟩
  rcases hi with hi | hi
  · exact hi hd
  · omega

/-- A copied byte is the source byte before the copy. -/
theorem mem_copy_inside {dstOffset size : UInt32} {k : Nat} (hk : k < size.toNat) :
    (h.copy c dstOffset b offset size).mem c (dstOffset.toNat + k) =
      h.mem b (offset.toNat + k) := by
  simp only [copy]
  rw [if_pos ⟨trivial, by omega, by omega⟩, Nat.add_sub_cancel_left]

/-! ### Blocks filled from the start -/

omit [DecidableEq β] in
/-- The block starts with the given bytes. -/
def Holds (h : Heap β) (b : β) (xs : List UInt8) : Prop :=
  ∀ k (hk : k < xs.length), h.mem b k = xs[k]

variable {h b c offset} {xs ys : List UInt8}

omit [DecidableEq β] in
/-- Every block starts with no bytes. -/
theorem holds_nil : h.Holds b [] := by
  intro k hk
  exact absurd hk (Nat.not_lt_zero k)

omit [DecidableEq β] in
/-- Bytes held in front, and the ones that follow them. -/
theorem holds_append :
    h.Holds b (xs ++ ys) ↔
      h.Holds b xs ∧ ∀ k (hk : k < ys.length), h.mem b (xs.length + k) = ys[k] := by
  constructor
  · intro hb
    constructor
    · intro k hk
      rw [hb k (by simp; omega), List.getElem_append_left hk]
    · intro k hk
      rw [hb (xs.length + k) (by simp; omega), List.getElem_append_right (by omega)]
      simp
  · rintro ⟨hx, hy⟩ k hk
    rw [List.length_append] at hk
    by_cases hkx : k < xs.length
    · rw [hx k hkx, List.getElem_append_left hkx]
    · have hky := hy (k - xs.length) (by omega)
      rw [Nat.add_sub_cancel' (by omega)] at hky
      rw [hky, List.getElem_append_right (by omega)]

/-- Writing right after the held bytes extends them. -/
theorem Holds.storeBytes (hb : h.Holds b xs) (ho : offset.toNat = xs.length) :
    (h.storeBytes b offset ys).Holds b (xs ++ ys) := by
  rw [holds_append]
  constructor
  · intro k hk
    rw [mem_storeBytes_outside _ _ _ _ (.inr (by omega))]
    exact hb k hk
  · intro k hk
    rw [← ho]
    exact mem_storeBytes_inside h b offset hk

/-- Copying right after the held bytes extends them by the source bytes. -/
theorem Holds.copy {dstOffset size : UInt32} (hc : h.Holds c xs)
    (ho : dstOffset.toNat = xs.length) (hs : size.toNat = ys.length)
    (hy : ∀ k (hk : k < ys.length), h.mem b (offset.toNat + k) = ys[k]) :
    (h.copy c dstOffset b offset size).Holds c (xs ++ ys) := by
  rw [holds_append]
  constructor
  · intro k hk
    rw [mem_copy_outside _ _ _ _ (.inr (by omega))]
    exact hc k hk
  · intro k hk
    rw [← ho, mem_copy_inside _ _ _ _ (by omega)]
    exact hy k hk

/-- Copying the start of one block to the start of another, or of the same one. -/
theorem Holds.copy_start {size : UInt32} (hb : h.Holds b xs) (hs : size.toNat = xs.length) :
    (h.copy c 0 b 0 size).Holds c xs := by
  have hbytes : ∀ k (hk : k < xs.length), h.mem b ((0 : UInt32).toNat + k) = xs[k] := by
    intro k hk
    rw [UInt32.toNat_zero, Nat.zero_add]
    exact hb k hk
  have hc : (h.copy c 0 b 0 size).Holds c ([] ++ xs) := holds_nil.copy rfl hs hbytes
  rwa [List.nil_append] at hc

/-- Writing to another block keeps the held bytes. -/
theorem Holds.storeBytes_ne (hc : h.Holds c xs) (hne : c ≠ b) :
    (h.storeBytes b offset ys).Holds c xs := by
  intro k hk
  rw [mem_storeBytes_outside _ _ _ _ (.inl hne)]
  exact hc k hk

/-- Copying into another block keeps the held bytes. -/
theorem Holds.copy_ne {d : β} {dstOffset size : UInt32} (hd : h.Holds d xs) (hne : d ≠ c) :
    (h.copy c dstOffset b offset size).Holds d xs := by
  intro k hk
  rw [mem_copy_outside _ _ _ _ (.inl hne)]
  exact hd k hk

end Heap
end Esp32Robot.Base
