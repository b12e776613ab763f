/-!
# Interleaved threads

General support for systems of threads over a shared state. The program of a
thread is the list of instructions that it still has to run: running the first
one changes the shared state, puts the instructions of the functions that it
calls in front of the rest, and may create threads. An instruction without an
outcome blocks. A scheduler picks the thread that takes the next step.
-/

namespace Esp32Robot.Base

universe u v w x

/-- What a thread is for, and what it still has to run. -/
structure Thread (ρ : Type u) (ι : Type v) where
  role : ρ
  program : List ι
  deriving DecidableEq

/-- What an instruction does: the next shared state, the instructions that it calls and the
threads that it creates. -/
structure Outcome (σ : Type w) (ρ : Type u) (ι : Type v) where
  state : σ
  calls : List ι
  created : List (Thread ρ ι)

/-- Threads over a shared state. -/
structure System (σ : Type w) (ρ : Type u) (ι : Type v) where
  state : σ
  threads : List (Thread ρ ι)

namespace System

variable {σ : Type w} {ρ : Type u} {ι : Type v} {γ : Type x}
variable {instr : σ → ι → γ → Option (Outcome σ ρ ι)}

/-- The step of thread `i`; none when it has ended or blocks. -/
def exec (instr : σ → ι → γ → Option (Outcome σ ρ ι)) (i : Nat) (c : γ) (s : System σ ρ ι) :
    Option (System σ ρ ι) :=
  match s.threads[i]? with
  | some ⟨role, ins :: rest⟩ =>
    (instr s.state ins c).map fun o ↦
      ⟨o.state, s.threads.set i ⟨role, o.calls ++ rest⟩ ++ o.created⟩
  | _ => none

/-- A step runs the first instruction of its thread. -/
theorem exec_some {i : Nat} {c : γ} {s t : System σ ρ ι} (h : s.exec instr i c = some t) :
    ∃ role ins rest o, s.threads[i]? = some ⟨role, ins :: rest⟩ ∧
      instr s.state ins c = some o ∧
      t = ⟨o.state, s.threads.set i ⟨role, o.calls ++ rest⟩ ++ o.created⟩ := by
  unfold exec at h
  split at h
  · next role ins rest hthread =>
    obtain ⟨o, ho, rfl⟩ := Option.map_eq_some_iff.mp h
    exact ⟨role, ins, rest, o, hthread, ho, rfl⟩
  · exact absurd h (by simp)

/-- The thread that took a step has the called instructions in front of its rest. -/
theorem getElem?_stepped {threads created : List (Thread ρ ι)} {i : Nat} {t u : Thread ρ ι}
    (h : threads[i]? = some t) : (threads.set i u ++ created)[i]? = some u := by
  obtain ⟨hi, _⟩ := List.getElem?_eq_some_iff.mp h
  rw [List.getElem?_append_left (by simpa using hi), List.getElem?_set_self hi]

/-- The other threads keep their place and their program. -/
theorem getElem?_other {threads created : List (Thread ρ ι)} {i j : Nat} {t u : Thread ρ ι}
    (hij : i ≠ j) (h : threads[j]? = some t) : (threads.set i u ++ created)[j]? = some t := by
  obtain ⟨hj, _⟩ := List.getElem?_eq_some_iff.mp h
  rw [List.getElem?_append_left (by simpa using hj), List.getElem?_set_ne hij, h]

/-- A thread after a step took it, was there before it, or was created by it. -/
theorem getElem?_cases {threads created : List (Thread ρ ι)} {i j : Nat} {t u : Thread ρ ι}
    (h : (threads.set i u ++ created)[j]? = some t) :
    (j = i ∧ t = u) ∨ (j ≠ i ∧ threads[j]? = some t) ∨
      (threads.length ≤ j ∧ created[j - threads.length]? = some t) := by
  by_cases hj : j < threads.length
  · rw [List.getElem?_append_left (by simpa using hj)] at h
    by_cases hij : i = j
    · rw [hij, List.getElem?_set_self hj] at h
      exact .inl ⟨hij.symm, (Option.some.inj h).symm⟩
    · rw [List.getElem?_set_ne hij] at h
      exact .inr (.inl ⟨Ne.symm hij, h⟩)
  · rw [List.getElem?_append_right (by simpa using hj), List.length_set] at h
    exact .inr (.inr ⟨Nat.le_of_not_lt hj, h⟩)

/-- A property of every thread is kept when the step keeps it for the thread that takes it, for
the threads that do not, and gives it to the created ones. -/
theorem exec_forall {T : σ → Thread ρ ι → Prop} {i : Nat} {c : γ} {s t : System σ ρ ι}
    (h : s.exec instr i c = some t) (hs : ∀ x ∈ s.threads, T s.state x)
    (own : ∀ role ins rest o, s.threads[i]? = some ⟨role, ins :: rest⟩ →
      instr s.state ins c = some o →
      T o.state ⟨role, o.calls ++ rest⟩ ∧ (∀ x ∈ o.created, T o.state x) ∧
        ∀ x, T s.state x → T o.state x) :
    ∀ x ∈ t.threads, T t.state x := by
  obtain ⟨role, ins, rest, o, hthread, ho, rfl⟩ := exec_some h
  obtain ⟨hself, hcreated, hothers⟩ := own role ins rest o hthread ho
  intro x hx
  rcases List.mem_append.mp hx with hx | hx
  · rcases List.mem_or_eq_of_mem_set hx with hx | rfl
    · exact hothers x (hs x hx)
    · exact hself
  · exact hcreated x hx

/-- The instructions that the threads still have to run. -/
def pending (s : System σ ρ ι) : List ι := s.threads.flatMap Thread.program

/-- Replacing a thread exchanges its instructions among those of all threads. -/
private theorem countP_set {p : ι → Bool} {threads : List (Thread ρ ι)} {i : Nat}
    {t u : Thread ρ ι} (h : threads[i]? = some t) :
    ((threads.set i u).flatMap Thread.program).countP p + t.program.countP p =
      (threads.flatMap Thread.program).countP p + u.program.countP p := by
  induction threads generalizing i with
  | nil => exact absurd h (by simp)
  | cons x xs ih =>
    cases i with
    | zero =>
      cases h
      simp only [List.set_cons_zero, List.flatMap_cons, List.countP_append]
      omega
    | succ i =>
      have htail := ih h
      simp only [List.set_cons_succ, List.flatMap_cons, List.countP_append]
      omega

/-- The instruction that thread `i` runs next. -/
def head (s : System σ ρ ι) (i : Nat) : Option ι := s.threads[i]?.bind (fun t ↦ t.program.head?)

/-- The instruction that a thread runs next is pending. -/
theorem mem_pending_of_head {s : System σ ρ ι} {i : Nat} {ins : ι} (h : s.head i = some ins) :
    ins ∈ s.pending := by
  obtain ⟨t, ht, hhead⟩ := Option.bind_eq_some_iff.mp h
  exact List.mem_flatMap.mpr ⟨t, List.mem_of_getElem? ht, List.mem_of_mem_head? hhead⟩

/-- What is pending after a step was pending before, is called by its instruction, or is to be run
by a thread that it creates. -/
theorem mem_pending_exec {i : Nat} {c : γ} {s t : System σ ρ ι} (h : s.exec instr i c = some t) :
    ∃ ins o, s.head i = some ins ∧ instr s.state ins c = some o ∧ t.state = o.state ∧
      ∀ x ∈ t.pending, x ∈ s.pending ∨ x ∈ o.calls ∨ x ∈ o.created.flatMap Thread.program := by
  obtain ⟨role, ins, rest, o, hthread, ho, rfl⟩ := exec_some h
  refine ⟨ins, o, by rw [head, hthread]; rfl, ho, rfl, ?_⟩
  intro x hx
  obtain ⟨u, hu, hxu⟩ := List.mem_flatMap.mp hx
  rcases List.mem_append.mp hu with hu | hu
  · rcases List.mem_or_eq_of_mem_set hu with hu | rfl
    · exact .inl (List.mem_flatMap.mpr ⟨u, hu, hxu⟩)
    · rcases List.mem_append.mp hxu with hx | hx
      · exact .inr (.inl hx)
      · have hmem := List.mem_of_getElem? hthread
        exact .inl (List.mem_flatMap.mpr ⟨_, hmem, List.mem_cons_of_mem _ hx⟩)
  · exact .inr (.inr (List.mem_flatMap.mpr ⟨u, hu, hxu⟩))

/-- A step takes the head of its thread from the pending instructions, and adds what it calls and
what the threads that it creates have to run. -/
theorem countP_exec {i : Nat} {c : γ} {s t : System σ ρ ι} (h : s.exec instr i c = some t) :
    ∃ ins o, s.head i = some ins ∧ instr s.state ins c = some o ∧ t.state = o.state ∧
      ∀ p : ι → Bool, t.pending.countP p + [ins].countP p = s.pending.countP p +
        o.calls.countP p + (o.created.flatMap Thread.program).countP p := by
  obtain ⟨role, ins, rest, o, hthread, ho, rfl⟩ := exec_some h
  refine ⟨ins, o, by rw [head, hthread]; rfl, ho, rfl, ?_⟩
  intro p
  have hset := countP_set (p := p) (u := ⟨role, o.calls ++ rest⟩) hthread
  simp only [pending, List.flatMap_append, List.countP_append, List.countP_cons,
    List.countP_nil] at hset ⊢
  omega

/-- Adding a thread adds its program to what is pending. -/
theorem countP_pending_add (s : System σ ρ ι) (t : Thread ρ ι) (p : ι → Bool) :
    (pending { s with threads := s.threads ++ [t] }).countP p =
      s.pending.countP p + t.program.countP p := by
  simp [pending, List.flatMap_append, List.countP_append]

/-- What a thread runs next is pending, and counted for its kind. -/
theorem countP_pos_of_head {s : System σ ρ ι} {i : Nat} {ins : ι} {p : ι → Bool}
    (h : s.head i = some ins) (hp : p ins = true) : 0 < s.pending.countP p :=
  List.countP_pos_iff.mpr ⟨ins, mem_pending_of_head h, hp⟩

/-- The instructions of a kind run in threads of one role only. -/
def RunsIn (p : ι → Bool) (r : ρ) (s : System σ ρ ι) : Prop :=
  ∀ t ∈ s.threads, t.program.any p = true → t.role = r

section RunsIn

variable {p q : ι → Bool} {r : ρ} {s t : System σ ρ ι}

/-- A new thread has the role, or runs no instruction of the kind. -/
theorem RunsIn.add (h : s.RunsIn p r) {u : Thread ρ ι}
    (hu : u.program.any p = true → u.role = r) :
    RunsIn p r { s with threads := s.threads ++ [u] } := by
  intro x hx
  rcases List.mem_append.mp hx with hx | hx
  · exact h x hx
  · rw [List.mem_singleton.mp hx]
    exact hu

/-- A step keeps it when an instruction calls one of the kind only if it is one, and creates only
threads of the role. -/
theorem RunsIn.exec (h : s.RunsIn p r) {i : Nat} {c : γ} (hexec : s.exec instr i c = some t)
    (hins : ∀ ins o, instr s.state ins c = some o →
      (o.calls.any p = true → p ins = true) ∧ ∀ u ∈ o.created, u.role = r) : t.RunsIn p r := by
  apply exec_forall (T := fun _ u ↦ u.program.any p = true → u.role = r) hexec h
  intro role ins rest o hthread ho
  obtain ⟨hcalls, hcreated⟩ := hins ins o ho
  refine ⟨?_, fun u hu _ ↦ hcreated u hu, fun _ hu ↦ hu⟩
  intro hany
  apply h ⟨role, ins :: rest⟩ (List.mem_of_getElem? hthread)
  rw [List.any_append, Bool.or_eq_true] at hany
  rw [List.any_cons, Bool.or_eq_true]
  exact hany.imp_left hcalls

/-- A thread of the role will run an instruction among them exactly when one is pending. -/
theorem RunsIn.exists_iff (h : s.RunsIn p r) (hq : ∀ ins, q ins = true → p ins = true) :
    (∃ u ∈ s.threads, u.role = r ∧ u.program.any q = true) ↔ 0 < s.pending.countP q := by
  constructor
  · rintro ⟨u, hu, _, hany⟩
    obtain ⟨ins, hmem, hins⟩ := List.any_eq_true.mp hany
    exact List.countP_pos_iff.mpr ⟨ins, List.mem_flatMap.mpr ⟨u, hu, hmem⟩, hins⟩
  · intro hpos
    obtain ⟨ins, hmem, hins⟩ := List.countP_pos_iff.mp hpos
    obtain ⟨u, hu, hmem⟩ := List.mem_flatMap.mp hmem
    have hrole := h u hu (List.any_eq_true.mpr ⟨ins, hmem, hq ins hins⟩)
    exact ⟨u, hu, hrole, List.any_eq_true.mpr ⟨ins, hmem, hins⟩⟩

end RunsIn

/-- Running a program to its end, without another thread in between, leads from one state to
another and creates threads. -/
inductive Alone (instr : σ → ι → γ → Option (Outcome σ ρ ι)) :
    σ → List ι → σ → List (Thread ρ ι) → Prop where
  | done {s : σ} : Alone instr s [] s []
  | next {s t u : σ} {ins : ι} {calls rest : List ι} {c : γ} {a b : List (Thread ρ ι)} :
      instr s ins c = some ⟨u, calls, a⟩ → Alone instr u (calls ++ rest) t b →
      Alone instr s (ins :: rest) t (a ++ b)

/-- One program after another. -/
theorem Alone.append {s t u : σ} {p q : List ι} {a b : List (Thread ρ ι)}
    (hp : Alone instr s p t a) (hq : Alone instr t q u b) : Alone instr s (p ++ q) u (a ++ b) := by
  induction hp with
  | done => exact hq
  | next hins _ ih =>
    rw [List.append_assoc, List.cons_append]
    refine .next hins ?_
    rw [← List.append_assoc]
    exact ih hq

end System

end Esp32Robot.Base
