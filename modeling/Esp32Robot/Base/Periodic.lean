import Esp32Robot.Base.Run

/-!
# Periodic events

Events of a kind that happen at least once in each period of a time span. Enough periods hold
enough of them, and the first one splits the run.
-/

namespace Esp32Robot.Base

universe v

variable {ε : Type v} {time : ε → Int} {kind : ε → Bool} {period lo hi : Int} {es : List ε}

/-- Each period within `lo..hi` has an event of the kind. -/
def Periodic (time : ε → Int) (kind : ε → Bool) (period lo hi : Int) (es : List ε) : Prop :=
  ∀ a, lo ≤ a → a + period ≤ hi → ∃ e ∈ es, kind e = true ∧ a < time e ∧ time e ≤ a + period

/-- Later periods have their events. -/
theorem Periodic.later {a : Int} (h : Periodic time kind period lo hi es) (ha : lo ≤ a) :
    Periodic time kind period a hi es := fun b hb hroom ↦ h b (Int.le_trans ha hb) hroom

/-- The events up to a time do not count for the periods after it. -/
theorem Periodic.right {pre post : List ε} (h : Periodic time kind period lo hi (pre ++ post))
    (hpre : ∀ e ∈ pre, time e ≤ lo) : Periodic time kind period lo hi post := by
  intro a ha hroom
  obtain ⟨e, he, hkind, hlow, hhigh⟩ := h a ha hroom
  rcases List.mem_append.mp he with he | he
  · have := hpre e he
    omega
  · exact ⟨e, he, hkind, hlow, hhigh⟩

/-- The run splits at the event of a period. -/
theorem Periodic.split (h : Periodic time kind period lo hi es) (hroom : lo + period ≤ hi) :
    ∃ pre e post, es = pre ++ e :: post ∧ kind e = true ∧ lo < time e ∧ time e ≤ lo + period := by
  obtain ⟨e, he, hkind, hlow, hhigh⟩ := h lo (Int.le_refl lo) hroom
  obtain ⟨pre, post, rfl⟩ := List.append_of_mem he
  exact ⟨pre, e, post, rfl, hkind, hlow, hhigh⟩

/-- `n` periods have at least `n` events. -/
theorem Periodic.le_countP {n : Nat} (h : Periodic time kind period lo hi es) (hpos : 0 < period)
    (htimed : Timed time es) (hroom : lo + n * period ≤ hi) : n ≤ es.countP kind := by
  induction n generalizing lo es with
  | zero => exact Nat.zero_le _
  | succ n ih =>
    have hn : 0 ≤ (n : Int) * period := Int.mul_nonneg (Int.natCast_nonneg n) (Int.le_of_lt hpos)
    rw [Int.natCast_add, Int.add_mul, Int.natCast_one, Int.one_mul] at hroom
    obtain ⟨pre, e, post, rfl, hkind, hlow, hhigh⟩ := h.split (by omega)
    obtain ⟨_, hpost, hle⟩ := List.pairwise_append.mp htimed
    -- Up to the event of the first period, nothing counts for the periods after it.
    have hbefore : ∀ x ∈ pre ++ [e], time x ≤ lo + period := by
      intro x hx
      rcases List.mem_append.mp hx with hx | hx
      · exact Int.le_trans (hle x hx e List.mem_cons_self) hhigh
      · rw [List.mem_singleton.mp hx]
        exact hhigh
    have hrest : Periodic time kind period (lo + period) hi post := by
      refine Periodic.right ?_ hbefore
      rw [List.append_assoc]
      exact h.later (by omega)
    have hcount := ih hrest (List.pairwise_cons.mp hpost).2 (by omega)
    rw [List.countP_append, List.countP_cons_of_pos hkind]
    omega

end Esp32Robot.Base
