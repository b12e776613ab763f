/-!
# Runs of partial step functions

General transition-system support. A system is a step function
`σ → ε → Option σ`; `none` means that the event is not enabled. Invariants may
speak about the events handled so far, about a condition that every step of the
run met, and about a log that the steps extend.
-/

namespace Esp32Robot.Base

universe u v

variable {σ : Type u} {ε : Type v}

/-- The state after a list of events, oldest first, when every one of them is enabled. -/
def run (step : σ → ε → Option σ) (s : σ) (es : List ε) : Option σ := es.foldlM step s

section Run

variable {step : σ → ε → Option σ} {s t : σ} {e : ε} {es fs : List ε}

/-- The empty run stays where it is. -/
@[simp] theorem run_nil : run step s [] = some s := rfl

/-- A run takes its first step first. -/
theorem run_cons : run step s (e :: es) = (step s e).bind (fun u ↦ run step u es) := rfl

/-- A one-event run is one step. -/
@[simp] theorem run_singleton : run step s [e] = step s e := by
  rw [run_cons]
  cases step s e <;> rfl

/-- Runs compose along appended events. -/
theorem run_append : run step s (es ++ fs) = (run step s es).bind (fun u ↦ run step u fs) := by
  simp only [run, List.foldlM_append]
  rfl

/-- A completed run passes through a state at each of its split points. -/
theorem run_append_some :
    run step s (es ++ fs) = some t ↔
      ∃ u, run step s es = some u ∧ run step u fs = some t := by
  rw [run_append, Option.bind_eq_some_iff]

/-- A completed run ends with the step of its last event. -/
theorem run_concat_some :
    run step s (es ++ [e]) = some t ↔ ∃ u, run step s es = some u ∧ step u e = some t := by
  rw [run_append_some]
  simp only [run_singleton]

/-- A completed run starts with the step of its first event. -/
theorem run_cons_some :
    run step s (e :: es) = some t ↔ ∃ u, step s e = some u ∧ run step u es = some t := by
  rw [run_cons, Option.bind_eq_some_iff]

end Run

/-- Induction over a list from its newest element. -/
theorem concat_induction {P : List ε → Prop} (nil : P [])
    (concat : ∀ es e, P es → P (es ++ [e])) (es : List ε) : P es := by
  have h : P es.reverse.reverse := by
    induction es.reverse with
    | nil => exact nil
    | cons e es ih =>
      rw [List.reverse_cons]
      exact concat _ _ ih
  rwa [List.reverse_reverse] at h

/-- An invariant of the state together with the events handled so far. -/
theorem run_history {step : σ → ε → Option σ} {s₀ : σ} {I : List ε → σ → Prop}
    (init : I [] s₀)
    (next : ∀ es s e t, run step s₀ es = some s → I es s → step s e = some t →
      I (es ++ [e]) t) {es : List ε} {s : σ} (h : run step s₀ es = some s) : I es s := by
  induction es using concat_induction generalizing s with
  | nil =>
    cases h
    exact init
  | concat es e ih =>
    obtain ⟨u, hu, he⟩ := run_concat_some.mp h
    exact next es u e s hu (ih hu) he

/-- An invariant that every enabled step keeps holds after every run. -/
theorem run_invariant {step : σ → ε → Option σ} {s₀ : σ} {I : σ → Prop} (init : I s₀)
    (next : ∀ s e t, I s → step s e = some t → I t) {es : List ε} {s : σ}
    (h : run step s₀ es = some s) : I s :=
  run_history (I := fun _ s ↦ I s) init (fun _ s e t _ hs he ↦ next s e t hs he) h

/-! ### Runs whose steps all meet a condition -/

/-- Every step of the run from `s₀` is taken in a state, and on an event, that meet `P`. -/
def StepsMeet (P : σ → ε → Prop) (step : σ → ε → Option σ) (s₀ : σ) (es : List ε) : Prop :=
  ∀ pre e post s, es = pre ++ e :: post → run step s₀ pre = some s → P s e

/-- Steps of a prefix meet what all steps meet. -/
theorem StepsMeet.left {P : σ → ε → Prop} {step : σ → ε → Option σ} {s₀ : σ}
    {es fs : List ε} (h : StepsMeet P step s₀ (es ++ fs)) : StepsMeet P step s₀ es := by
  intro pre e post s hes hs
  exact h pre e (post ++ fs) s (by simp [hes]) hs

/-- Steps after a prefix meet what all steps meet. -/
theorem StepsMeet.right {P : σ → ε → Prop} {step : σ → ε → Option σ} {s₀ s : σ}
    {es fs : List ε} (h : StepsMeet P step s₀ (es ++ fs)) (hs : run step s₀ es = some s) :
    StepsMeet P step s fs := by
  rintro pre e post u rfl hu
  exact h (es ++ pre) e post u (by simp) (run_append_some.mpr ⟨s, hs, hu⟩)

/-- The last step of a run meets what all steps meet. -/
theorem StepsMeet.last {P : σ → ε → Prop} {step : σ → ε → Option σ} {s₀ s : σ}
    {es : List ε} {e : ε} (h : StepsMeet P step s₀ (es ++ [e])) (hs : run step s₀ es = some s) :
    P s e :=
  h es e [] s rfl hs

/-- An invariant kept by the steps that meet `P` holds after every run of such steps. -/
theorem run_invariant_of_meet {P : σ → ε → Prop} {step : σ → ε → Option σ} {s₀ : σ}
    {I : σ → Prop} (init : I s₀)
    (next : ∀ s e t, I s → P s e → step s e = some t → I t) {es : List ε} {s : σ}
    (hP : StepsMeet P step s₀ es) (h : run step s₀ es = some s) : I s := by
  induction es using concat_induction generalizing s with
  | nil =>
    cases h
    exact init
  | concat es e ih =>
    obtain ⟨u, hu, he⟩ := run_concat_some.mp h
    exact next u e s (ih hP.left hu) (hP.last hu) he

/-- What every event of a list meets, every step of its run meets. -/
theorem stepsMeet_of_forall {P : ε → Prop} {step : σ → ε → Option σ} {s₀ : σ} {es : List ε}
    (h : ∀ e ∈ es, P e) : StepsMeet (fun _ e ↦ P e) step s₀ es := by
  rintro pre e post s rfl _
  exact h e (by simp)

/-- The empty run has no step to check. -/
theorem stepsMeet_nil {P : σ → ε → Prop} {step : σ → ε → Option σ} {s : σ} :
    StepsMeet P step s [] := by
  intro pre e post _ h
  simp at h

/-- The first step meets `P`, and so do the steps after it. -/
theorem stepsMeet_cons {P : σ → ε → Prop} {step : σ → ε → Option σ} {s : σ} {e : ε}
    {es : List ε} :
    StepsMeet P step s (e :: es) ↔ P s e ∧ ∀ t ∈ step s e, StepsMeet P step t es := by
  constructor
  · intro h
    refine ⟨h [] e es s rfl rfl, ?_⟩
    rintro t ht pre x post u rfl hu
    exact h (e :: pre) x post u rfl (run_cons_some.mpr ⟨t, ht, hu⟩)
  · rintro ⟨hfirst, hrest⟩ pre x post u hes hu
    cases pre with
    | nil =>
      obtain ⟨rfl, rfl⟩ := List.cons.inj hes
      cases hu
      exact hfirst
    | cons y pre =>
      obtain ⟨rfl, rfl⟩ := List.cons.inj hes
      obtain ⟨t, ht, hu⟩ := run_cons_some.mp hu
      exact hrest t ht pre x post u rfl hu

/-- All steps meet `P` when those before the last one do, and the last one does. -/
theorem stepsMeet_concat {P : σ → ε → Prop} {step : σ → ε → Option σ} {s₀ : σ} {es : List ε}
    {e : ε} :
    StepsMeet P step s₀ (es ++ [e]) ↔
      StepsMeet P step s₀ es ∧ ∀ s, run step s₀ es = some s → P s e := by
  constructor
  · intro h
    exact ⟨h.left, fun s hs ↦ h.last hs⟩
  · rintro ⟨hleft, hlast⟩ pre x post s hes hs
    rcases List.eq_nil_or_concat post with rfl | ⟨post, y, rfl⟩
    · obtain ⟨rfl, hx⟩ := List.append_inj' hes rfl
      cases hx
      exact hlast s hs
    · refine hleft pre x post s ?_ hs
      simp only [List.concat_eq_append, ← List.cons_append, ← List.append_assoc] at hes
      exact (List.append_inj' hes rfl).1

/-- What an invariant of the steps that meet `P` implies holds all along a run exactly when every
step meets `P`, provided that a step which does not leaves it. -/
theorem along_iff {P : σ → ε → Prop} {step : σ → ε → Option σ} {s₀ : σ} {I G : σ → Prop}
    (init : I s₀) (next : ∀ s e t, I s → P s e → step s e = some t → I t)
    (good : ∀ s, I s → G s) (bad : ∀ s e, I s → (∀ t, step s e = some t → G t) → P s e)
    {es : List ε} :
    (∀ pre s, pre <+: es → run step s₀ pre = some s → G s) ↔ StepsMeet P step s₀ es := by
  constructor
  · intro h
    induction es using concat_induction with
    | nil => exact stepsMeet_nil
    | concat es e ih =>
      have hleft : StepsMeet P step s₀ es :=
        ih fun pre s hpre hs ↦ h pre s (hpre.trans (List.prefix_append es [e])) hs
      refine stepsMeet_concat.mpr ⟨hleft, ?_⟩
      intro s hs
      apply bad s e (run_invariant_of_meet init next hleft hs)
      intro t ht
      exact h (es ++ [e]) t (List.prefix_refl _) (run_concat_some.mpr ⟨s, hs, ht⟩)
  · rintro h pre s ⟨post, rfl⟩ hs
    exact good s (run_invariant_of_meet init next h.left hs)

/-- A condition that can be decided at each step can be decided for a run. -/
instance decidableStepsMeet {P : σ → ε → Prop} [∀ s e, Decidable (P s e)]
    {step : σ → ε → Option σ} : (s : σ) → (es : List ε) → Decidable (StepsMeet P step s es)
  | _, [] => isTrue stepsMeet_nil
  | _, _ :: es =>
    have (t : σ) : Decidable (StepsMeet P step t es) := decidableStepsMeet t es
    decidable_of_iff _ stepsMeet_cons.symm

/-! ### Timed events -/

/-- The events carry non-decreasing times. -/
def Timed (time : ε → Int) (es : List ε) : Prop := es.Pairwise (fun a b ↦ time a ≤ time b)

/-- Extending a timed list takes a time that no earlier event exceeds. -/
theorem timed_concat {time : ε → Int} {es : List ε} {e : ε} :
    Timed time (es ++ [e]) ↔ Timed time es ∧ ∀ a ∈ es, time a ≤ time e := by
  simp [Timed, List.pairwise_append]

/-- A prefix of a timed list is timed. -/
theorem Timed.left {time : ε → Int} {es fs : List ε} (h : Timed time (es ++ fs)) :
    Timed time es :=
  (List.pairwise_append.mp h).1

/-! ### Logs -/

/-- Each entry of a log meets `P` together with the entries before it. -/
def Throughout (P : List ε → ε → Prop) (log : List ε) : Prop :=
  ∀ pre e post, log = pre ++ e :: post → P pre e

/-- The empty log has no entry to check. -/
theorem throughout_nil {P : List ε → ε → Prop} : Throughout P [] := by
  intro pre e post h
  simp at h

/-- Appending one entry checks that entry against the whole earlier log. -/
theorem throughout_concat {P : List ε → ε → Prop} {log : List ε} {e : ε} :
    Throughout P (log ++ [e]) ↔ Throughout P log ∧ P log e := by
  constructor
  · intro h
    refine ⟨?_, h log e [] rfl⟩
    intro pre x post hlog
    exact h pre x (post ++ [e]) (by simp [hlog])
  · rintro ⟨h, he⟩ pre x post hlog
    rcases List.eq_nil_or_concat post with rfl | ⟨post, y, rfl⟩
    · obtain ⟨rfl, hx⟩ := List.append_inj' hlog rfl
      cases hx
      exact he
    · apply h pre x post
      simp only [List.concat_eq_append, ← List.cons_append, ← List.append_assoc] at hlog
      exact (List.append_inj' hlog rfl).1

/-- Appending a list of entries checks them one after the other. -/
theorem throughout_append {P : List ε → ε → Prop} {log ext : List ε} :
    Throughout P (log ++ ext) ↔
      Throughout P log ∧ Throughout (fun pre e ↦ P (log ++ pre) e) ext := by
  induction ext using concat_induction with
  | nil => simp [throughout_nil]
  | concat ext e ih => rw [← List.append_assoc, throughout_concat, ih, throughout_concat, and_assoc]

/-- The last entry of a log, or `d` before the first one. -/
def lastOr (d : ε) (log : List ε) : ε := log.getLast?.getD d

/-- The last entry is the one that was appended. -/
@[simp] theorem lastOr_concat (d : ε) (log : List ε) (e : ε) : lastOr d (log ++ [e]) = e := by
  simp [lastOr]

/-- Each entry of an ordered log is the last one or comes before it. -/
theorem pairwise_last {R : ε → ε → Prop} {log : List ε} {e last : ε} (h : log.Pairwise R)
    (he : e ∈ log) (hlast : log.getLast? = some last) : e = last ∨ R e last := by
  obtain ⟨pre, rfl⟩ := List.getLast?_eq_some_iff.mp hlast
  rcases List.mem_append.mp he with he | he
  · exact .inr ((List.pairwise_append.mp h).2.2 e he last List.mem_cons_self)
  · exact .inl (List.mem_singleton.mp he)

/-- Each entry differs from the one before it, and the first one from `d`. -/
def Changes (d : ε) (log : List ε) : Prop := Throughout (fun pre e ↦ e ≠ lastOr d pre) log

/-- Appending an entry to a log of changes takes a change. -/
theorem changes_concat {d : ε} {log : List ε} {e : ε} :
    Changes d (log ++ [e]) ↔ Changes d log ∧ e ≠ lastOr d log := throughout_concat

/-- The second log is the first one followed by entries that meet `P`. -/
def Extends (P : ε → Prop) (log log' : List ε) : Prop :=
  ∃ ext, log' = log ++ ext ∧ ∀ e ∈ ext, P e

/-- A log extends itself. -/
theorem Extends.refl {P : ε → Prop} (log : List ε) : Extends P log log :=
  ⟨[], (List.append_nil log).symm, fun _ he ↦ absurd he List.not_mem_nil⟩

/-- Appending an entry that meets `P`. -/
theorem extends_concat {P : ε → Prop} (log : List ε) {e : ε} (he : P e) :
    Extends P log (log ++ [e]) := by
  refine ⟨[e], rfl, ?_⟩
  intro x hx
  rw [List.mem_singleton.mp hx]
  exact he

/-- Extensions compose. -/
theorem Extends.trans {P : ε → Prop} {a b c : List ε} (hab : Extends P a b)
    (hbc : Extends P b c) : Extends P a c := by
  obtain ⟨x, rfl, hx⟩ := hab
  obtain ⟨y, rfl, hy⟩ := hbc
  refine ⟨x ++ y, List.append_assoc a x y, ?_⟩
  intro e he
  rcases List.mem_append.mp he with he | he
  · exact hx e he
  · exact hy e he

/-- An extension whose entries meet `P` has entries that meet anything weaker. -/
theorem Extends.mono {P Q : ε → Prop} {a b : List ε} (h : Extends P a b)
    (hPQ : ∀ e, P e → Q e) : Extends Q a b := by
  obtain ⟨x, hb, hx⟩ := h
  exact ⟨x, hb, fun e he ↦ hPQ e (hx e he)⟩

/-- The new entries of a log meet the `P` of any extension that leads to it. -/
theorem Extends.of_append {P : ε → Prop} {log ext : List ε} (h : Extends P log (log ++ ext)) :
    ∀ e ∈ ext, P e := by
  obtain ⟨x, hx, hP⟩ := h
  rw [List.append_cancel_left hx]
  exact hP

end Esp32Robot.Base
