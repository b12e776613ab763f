/-!
# C strings

NUL-terminated byte strings and the standard library functions on them: the
comparisons, `strtol` in base 10 with a 32-bit `long`, and `snprintf` of an
unsigned decimal. A `CString` holds the bytes before its terminator.
-/

namespace Esp32Robot.Base

/-- The bytes of an ASCII literal. -/
def ascii (s : String) : List UInt8 := s.toList.map (fun c ↦ UInt8.ofNat c.toNat)

/-- A NUL-terminated string; the terminator is the first zero byte. -/
structure CString where
  bytes : List UInt8
  noNul : 0 ∉ bytes
  deriving DecidableEq

namespace CString

/-- A string literal of the source, which ends at its first zero byte. -/
def lit (s : String) : CString where
  bytes := (ascii s).takeWhile (· ≠ 0)
  noNul h := by
    have hall := List.all_eq_true.mp (List.all_takeWhile (p := (· ≠ 0)) (l := ascii s)) 0 h
    exact absurd hall (by decide)

/-- One string after another. -/
def append (a b : CString) : CString := ⟨a.bytes ++ b.bytes, by simp [a.noNul, b.noNul]⟩

/-- Strings with the same bytes are equal. -/
theorem ext {a b : CString} (h : a.bytes = b.bytes) : a = b := by
  cases a
  cases b
  cases h
  rfl

end CString

/-- `strcmp`: zero, or the difference of the first bytes that differ. -/
def strcmp : List UInt8 → List UInt8 → Int
  | [], [] => 0
  | [], b :: _ => -(b.toNat : Int)
  | a :: _, [] => a.toNat
  | a :: as, b :: bs => if a = b then strcmp as bs else (a.toNat : Int) - b.toNat

/-- `strncmp`: as `strcmp`, over at most `n` bytes. -/
def strncmp : List UInt8 → List UInt8 → Nat → Int
  | _, _, 0 => 0
  | [], [], _ + 1 => 0
  | [], b :: _, _ + 1 => -(b.toNat : Int)
  | a :: _, [], _ + 1 => a.toNat
  | a :: as, b :: bs, n + 1 =>
    if a = b then strncmp as bs n else (a.toNat : Int) - b.toNat

private theorem toNat_ne_zero {b : UInt8} (h : 0 ≠ b) : b.toNat ≠ 0 := by
  intro hb
  exact h (UInt8.toNat_inj.mp hb.symm)

private theorem toNat_sub_ne_zero {a b : UInt8} (h : a ≠ b) :
    (a.toNat : Int) - b.toNat ≠ 0 := by
  intro hb
  exact h (UInt8.toNat_inj.mp (by omega))

/-- Two strings compare equal exactly when they are the same. -/
theorem strcmp_eq_zero {a b : List UInt8} (ha : 0 ∉ a) (hb : 0 ∉ b) :
    strcmp a b = 0 ↔ a = b := by
  induction a generalizing b with
  | nil =>
    cases b with
    | nil => simp [strcmp]
    | cons y ys =>
      have hy := toNat_ne_zero (List.ne_of_not_mem_cons hb)
      simp only [strcmp, reduceCtorEq, iff_false]
      omega
  | cons x xs ih =>
    cases b with
    | nil =>
      have hx := toNat_ne_zero (List.ne_of_not_mem_cons ha)
      simp only [strcmp, reduceCtorEq, iff_false]
      omega
    | cons y ys =>
      rw [strcmp, List.cons.injEq]
      split
      · next he =>
        rw [ih (List.not_mem_of_not_mem_cons ha) (List.not_mem_of_not_mem_cons hb)]
        simp [he]
      · next he => simp [he, toNat_sub_ne_zero he]

/-- Comparing with a NUL-free literal over its whole length tests for a literal start. -/
theorem strncmp_eq_zero {a b : List UInt8} (hb : 0 ∉ b) :
    strncmp a b b.length = 0 ↔ b <+: a := by
  induction b generalizing a with
  | nil => simp [strncmp]
  | cons y ys ih =>
    cases a with
    | nil =>
      have hy := toNat_ne_zero (List.ne_of_not_mem_cons hb)
      simp only [List.length_cons, strncmp, List.prefix_nil, reduceCtorEq, iff_false]
      omega
    | cons x xs =>
      rw [List.length_cons, strncmp, List.cons_prefix_cons]
      split
      · next he =>
        rw [ih (List.not_mem_of_not_mem_cons hb)]
        simp [he]
      · next he =>
        have hn : ¬ y = x := fun h ↦ he h.symm
        simp [hn, toNat_sub_ne_zero he]

/-- A byte list compares equal with itself. -/
theorem strncmp_self (a : List UInt8) (n : Nat) : strncmp a a n = 0 := by
  induction a generalizing n with
  | nil => cases n <;> rfl
  | cons x xs ih =>
    cases n with
    | zero => rfl
    | succ n => simp [strncmp, ih]

/-- Only the first `n` bytes of the literal count. -/
theorem strncmp_take (a b : List UInt8) (n : Nat) : strncmp a (b.take n) n = strncmp a b n := by
  induction n generalizing a b with
  | zero => simp [strncmp]
  | succ n ih =>
    cases b with
    | nil => rfl
    | cons y ys =>
      cases a with
      | nil => rfl
      | cons x xs => simp only [List.take_succ_cons, strncmp, ih]

/-! ### Tokens -/

/-- `strtok` from where its state points: the next token and the state after it, or none when only
delimiters are left. -/
def strtok (isDelim : UInt8 → Bool) (s : List UInt8) : Option (List UInt8 × List UInt8) :=
  match s.dropWhile isDelim with
  | [] => none
  | c :: cs =>
    some ((c :: cs).takeWhile (fun b ↦ !isDelim b),
      ((c :: cs).dropWhile (fun b ↦ !isDelim b)).tail)

/-- The tokens of up to `n` calls of `strtok`. -/
def strtokLoop (isDelim : UInt8 → Bool) : Nat → List UInt8 → List (List UInt8)
  | 0, _ => []
  | n + 1, s =>
    match strtok isDelim s with
    | none => []
    | some (token, rest) => token :: strtokLoop isDelim n rest

/-- The tokens of `strtok` until it returns none; each has a byte. -/
def strtokAll (isDelim : UInt8 → Bool) (s : List UInt8) : List (List UInt8) :=
  strtokLoop isDelim s.length s

/-- Delimiters at the start separate nothing. -/
private theorem filter_splitOnP_dropWhile (isDelim : UInt8 → Bool) (s : List UInt8) :
    ((s.dropWhile isDelim).splitOnP isDelim).filter (· ≠ []) =
      (s.splitOnP isDelim).filter (· ≠ []) := by
  induction s with
  | nil => rfl
  | cons c cs ih =>
    rw [List.dropWhile_cons]
    split
    · next hc =>
      rw [ih, List.splitOnP_cons_eq_if_modifyHead, if_pos hc]
      rfl
    · rfl

/-- As many calls as there are bytes find all tokens: the parts between the delimiters that have a
byte. -/
private theorem strtokLoop_eq (isDelim : UInt8 → Bool) {n : Nat} {s : List UInt8}
    (h : s.length ≤ n) :
    strtokLoop isDelim n s = (s.splitOnP isDelim).filter (· ≠ []) := by
  induction n generalizing s with
  | zero =>
    cases List.length_eq_zero_iff.mp (Nat.le_zero.mp h)
    rfl
  | succ n ih =>
    rw [strtokLoop, strtok, ← filter_splitOnP_dropWhile]
    have hshort := (List.dropWhile_suffix isDelim (l := s)).length_le
    cases hs : s.dropWhile isDelim with
    | nil => rfl
    | cons c cs =>
      have hc : isDelim c = false := by
        have := List.head?_dropWhile_not isDelim s
        rw [hs] at this
        simpa using this
      have htoken : ∀ b ∈ (c :: cs).takeWhile (fun b ↦ !isDelim b), isDelim b = false := by
        intro b hb
        simpa using List.all_eq_true.mp List.all_takeWhile b hb
      have hne : (c :: cs).takeWhile (fun b ↦ !isDelim b) ≠ [] := by simp [hc]
      have hsplit := List.takeWhile_append_dropWhile (p := fun b ↦ !isDelim b) (l := c :: cs)
      have hlength := congrArg List.length hsplit
      rw [List.length_append] at hlength
      rw [hs] at hshort
      simp only
      generalize (c :: cs).takeWhile (fun b ↦ !isDelim b) = token at *
      have htail := List.head?_dropWhile_not (fun b ↦ !isDelim b) (c :: cs)
      generalize (c :: cs).dropWhile (fun b ↦ !isDelim b) = rest at *
      have hpos := List.length_pos_iff.mpr hne
      rw [ih (by rw [List.length_tail]; omega), ← hsplit]
      cases rest with
      | nil =>
        rw [List.append_nil, List.splitOnP_eq_singleton htoken]
        simp [hne]
      | cons d ds =>
        have hd : isDelim d = true := by simpa using htail
        rw [List.splitOnP_append_cons_of_forall_mem htoken d hd]
        simp [hne]

/-- `strtok` finds the parts between the delimiters that have a byte. -/
theorem strtokAll_eq (isDelim : UInt8 → Bool) (s : List UInt8) :
    strtokAll isDelim s = (s.splitOnP isDelim).filter (· ≠ []) :=
  strtokLoop_eq isDelim (Nat.le_refl _)

/-! ### Numbers -/

/-- `isspace` in the C locale. -/
def isSpace (c : UInt8) : Bool := c = 32 || (9 ≤ c && c ≤ 13)

/-- `isdigit`. -/
def isDigit (c : UInt8) : Bool := 48 ≤ c && c ≤ 57

/-- Value of a run of decimal digits, the most significant first. -/
def digitsValue (ds : List UInt8) : Nat := ds.foldl (fun v c ↦ 10 * v + (c.toNat - 48)) 0

/-- `LONG_MAX` of a 32-bit `long`. -/
def longMax : Int := 2147483647

/-- `LONG_MIN` of a 32-bit `long`. -/
def longMin : Int := -2147483648

/-- `strtol(s, NULL, 10)`: leading spaces, an optional sign, then the longest run of
digits, saturating at the bounds of `long`; zero when there is no digit. -/
def strtol (s : List UInt8) : Int :=
  let s := s.dropWhile isSpace
  let value := fun r : List UInt8 ↦ (digitsValue (r.takeWhile isDigit) : Int)
  if s.head? = some 45 then max (-value s.tail) longMin
  else if s.head? = some 43 then min (value s.tail) longMax
  else min (value s) longMax

/-- The text of a decimal integer: digits, possibly after a sign. -/
inductive DecimalText : Int → List UInt8 → Prop where
  | unsigned {ds : List UInt8} : ds ≠ [] → ds.all isDigit → DecimalText (digitsValue ds) ds
  | plus {ds : List UInt8} : ds ≠ [] → ds.all isDigit → DecimalText (digitsValue ds) (43 :: ds)
  | minus {ds : List UInt8} : ds ≠ [] → ds.all isDigit → DecimalText (-digitsValue ds) (45 :: ds)

private theorem not_sign_of_isDigit {c : UInt8} (h : isDigit c = true) :
    isSpace c = false ∧ c ≠ 45 ∧ c ≠ 43 := by
  simp only [isDigit, isSpace, Bool.and_eq_true, decide_eq_true_eq, UInt8.le_iff_toNat_le,
    ← UInt8.toNat_inj, ne_eq, Bool.or_eq_false_iff, Bool.and_eq_false_iff,
    decide_eq_false_iff_not, UInt8.reduceToNat] at h ⊢
  omega

private theorem takeWhile_isDigit {ds : List UInt8} (h : ds.all isDigit = true) :
    ds.takeWhile isDigit = ds := by
  rw [← List.append_nil ds, List.takeWhile_append_of_pos (List.all_eq_true.mp h),
    List.takeWhile_nil]

/-- `strtol` reads the number that a decimal text stands for, as far as a `long` goes. -/
theorem strtol_of_decimalText {n : Int} {text : List UInt8} (h : DecimalText n text) :
    strtol text = max longMin (min n longMax) := by
  have hmin : longMin ≤ 0 := by decide
  have hmax : 0 ≤ longMax := by decide
  cases h with
  | unsigned hne hds =>
    obtain ⟨c, cs, rfl⟩ := List.exists_cons_of_ne_nil hne
    obtain ⟨hspace, hminus, hplus⟩ := not_sign_of_isDigit (List.all_eq_true.mp hds c (by simp))
    simp only [strtol, List.dropWhile_cons, hspace, Bool.false_eq_true, if_false, List.head?_cons,
      Option.some.injEq, hminus, hplus, takeWhile_isDigit hds]
    omega
  | plus hne hds =>
    have hspace : isSpace 43 = false := by decide
    have hminus : (43 : UInt8) ≠ 45 := by decide
    simp only [strtol, List.dropWhile_cons, hspace, Bool.false_eq_true, if_false, List.head?_cons,
      Option.some.injEq, hminus, if_true, List.tail_cons, takeWhile_isDigit hds]
    omega
  | minus hne hds =>
    have hspace : isSpace 45 = false := by decide
    simp only [strtol, List.dropWhile_cons, hspace, Bool.false_eq_true, if_false, List.head?_cons,
      if_true, List.tail_cons, takeWhile_isDigit hds]
    omega

/-- Decimal text of an unsigned 32-bit number (`PRIu32`). -/
def decimal (n : UInt32) : List UInt8 :=
  (Nat.toDigits 10 n.toNat).map (fun c ↦ UInt8.ofNat c.toNat)

/-- A 32-bit number has at most ten digits. -/
theorem length_decimal_le (n : UInt32) : (decimal n).length ≤ 10 := by
  rw [decimal, List.length_map, Nat.length_toDigits_le_iff (by omega) (by omega)]
  exact Nat.lt_trans n.toNat_lt (by decide)

/-- `snprintf` into a buffer of `size` bytes: what is stored before the terminator, and
the length that the whole text has. -/
def snprintf (size : Nat) (text : List UInt8) : List UInt8 × Nat :=
  (text.take (size - 1), text.length)

/-- A text shorter than the buffer is stored whole. -/
theorem snprintf_of_lt {size : Nat} {text : List UInt8} (h : text.length < size) :
    snprintf size text = (text, text.length) := by
  rw [snprintf, List.take_of_length_le (by omega)]

end Esp32Robot.Base
