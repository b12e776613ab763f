import Esp32Robot.Base.Run
import Esp32Robot.Base.Threads

/-!
# Starting and stopping music

`play_music`, `stop_music` and `music_play_thread` of
`IDF_esp32p4_webrtc/main/media_sys.c`, as instructions of interleaved threads, each of
which calls the next one of its function. The thread resets the two flags one after the
other when it ends. A stop is answered as long as it is asked of a thread that has not
reset the first flag yet, and the second flag is reset while no other music plays.
-/

namespace Esp32Robot.Webrtc

open Esp32Robot.Base

/-- The static variables of `media_sys.c:56–60` that the functions test. -/
structure MusicState where
  musicPlaying : Bool
  musicStopping : Bool
  musicDuration : Int32
  deriving DecidableEq, Repr

/-- The function that a thread runs. -/
inductive MusicRole where
  | caller
  | player
  deriving DecidableEq, Repr

/-- The instructions of `play_music`, of `stop_music` and of `music_play_thread`. -/
inductive MusicInstr where
  | testPlaying (duration : Int32)
  | setPlaying (duration : Int32)
  | setMusic (duration : Int32)
  | setDuration (duration : Int32)
  | createPlayer
  | unsetPlaying
  | testStop
  | setStopping
  | whileStopping
  | addStream
  | whilePlaying
  | sendChunk
  | testPassOver
  | testOneLoop
  | whileDraining
  | testFifo
  | testTimed
  | spendTime
  | resetRender
  | clearStopping
  | clearPlaying
  deriving DecidableEq, Repr

/-- What an instruction of the music functions does. -/
abbrev MusicOutcome := Outcome MusicState MusicRole MusicInstr

/-- The start of `music_play_thread`, `media_sys.c:305–360`. -/
def musicPlayThread : List MusicInstr := [.addStream]

/-- The start of `play_music`, `media_sys.c:362–379`. -/
def playMusicCall (duration : Int32) : List MusicInstr := [.testPlaying duration]

/-- The start of `stop_music`, `media_sys.c:381–389`. -/
def stopMusicCall : List MusicInstr := [.testStop]

/-- What an instruction finds: whether the thread is created, the renderer takes the chunk, the pass
over the buffer is over or the renderer's queue is empty; and the time that an iteration took. -/
structure MusicInput where
  ok : Bool
  elapsed : UInt32
  deriving DecidableEq, Repr

/-- One instruction. -/
def MusicInstr.exec (s : MusicState) (x : MusicInput) : MusicInstr → MusicOutcome
  | .testPlaying d =>
    ⟨s, if s.musicPlaying then stopMusicCall ++ [.setPlaying d] else [.setPlaying d], []⟩
  | .setPlaying d => ⟨{ s with musicPlaying := true }, [.setMusic d], []⟩
  -- `music_to_play` and `music_size`.
  | .setMusic d => ⟨s, [.setDuration d], []⟩
  | .setDuration d => ⟨{ s with musicDuration := d }, [.createPlayer], []⟩
  | .createPlayer =>
    ⟨s, if x.ok then [] else [.unsetPlaying], if x.ok then [⟨.player, musicPlayThread⟩] else []⟩
  | .unsetPlaying => ⟨{ s with musicPlaying := false }, [], []⟩
  | .testStop => ⟨s, if s.musicPlaying then [.setStopping] else [], []⟩
  | .setStopping => ⟨{ s with musicStopping := true }, [.whileStopping], []⟩
  | .whileStopping => ⟨s, if s.musicStopping then [.whileStopping] else [], []⟩
  | .addStream => ⟨s, [.whilePlaying], []⟩
  | .whilePlaying =>
    ⟨s, if !s.musicStopping && decide (0 ≤ s.musicDuration) then [.sendChunk]
      else [.resetRender], []⟩
  | .sendChunk => ⟨s, if x.ok then [.testPassOver] else [.resetRender], []⟩
  | .testPassOver => ⟨s, if x.ok then [.testOneLoop] else [.testTimed], []⟩
  | .testOneLoop =>
    ⟨s, if s.musicDuration = 0 then [.whileDraining] else [.testTimed], []⟩
  | .whileDraining => ⟨s, if s.musicStopping then [.resetRender] else [.testFifo], []⟩
  | .testFifo => ⟨s, if x.ok then [.resetRender] else [.whileDraining], []⟩
  | .testTimed => ⟨s, if s.musicDuration = 0 then [.whilePlaying] else [.spendTime], []⟩
  | .spendTime =>
    ⟨{ s with musicDuration := s.musicDuration - x.elapsed.toInt32 }, [.whilePlaying], []⟩
  | .resetRender => ⟨s, [.clearStopping], []⟩
  | .clearStopping => ⟨{ s with musicStopping := false }, [.clearPlaying], []⟩
  | .clearPlaying => ⟨{ s with musicPlaying := false }, [], []⟩

/-- The threads over the flags. -/
abbrev MusicTasks := System MusicState MusicRole MusicInstr

/-- A call of `play_music` or of `stop_music`, or the next instruction of a thread. -/
inductive MusicEvent where
  | play (duration : Int32)
  | stop
  | exec (thread : Nat) (input : MusicInput)
  deriving DecidableEq, Repr

namespace MusicTasks

/-- The static initial values, without a thread. -/
def initial : MusicTasks where
  state := { musicPlaying := false, musicStopping := false, musicDuration := 0 }
  threads := []

/-- A call from a thread of its own. -/
def call (program : List MusicInstr) (s : MusicTasks) : MusicTasks :=
  { s with threads := s.threads ++ [⟨.caller, program⟩] }

/-- One step. -/
def step (s : MusicTasks) : MusicEvent → Option MusicTasks
  | .play d => some (s.call (playMusicCall d))
  | .stop => some (s.call stopMusicCall)
  | .exec i x => System.exec (fun s ins x ↦ some (MusicInstr.exec s x ins)) i x s

end MusicTasks

/-! ### The flags and the players -/

namespace MusicInstr

/-- The instructions of the playback loop and of the one in it. -/
def inLoop : MusicInstr → Bool
  | .whilePlaying | .sendChunk | .testPassOver | .testOneLoop => true
  | .whileDraining | .testFifo | .testTimed | .spendTime => true
  | _ => false

/-- From this instruction on `music_play_thread` will clear `music_stopping`. -/
def clearsStopping (ins : MusicInstr) : Bool :=
  ins.inLoop || ins = .addStream || ins = .resetRender || ins = .clearStopping

/-- From this instruction on `play_music` and the thread that it creates count on `music_playing`
until the end of the playback loop. -/
def needsPlaying : MusicInstr → Bool
  | .setMusic _ | .setDuration _ | .createPlayer | .addStream => true
  | .whilePlaying | .sendChunk | .testPassOver | .testOneLoop => true
  | .whileDraining | .testFifo | .testTimed | .spendTime => true
  | .testPlaying _ | .setPlaying _ | .unsetPlaying => false
  | .testStop | .setStopping | .whileStopping => false
  | .resetRender | .clearStopping | .clearPlaying => false

/-- The instructions that reset `music_playing`. -/
def resetsPlaying (ins : MusicInstr) : Bool := ins = .unsetPlaying || ins = .clearPlaying

end MusicInstr

namespace MusicTasks

/-- A player is alive that will clear `music_stopping`. -/
def PlayerWill (s : MusicTasks) : Prop :=
  ∃ t ∈ s.threads, t.role = .player ∧ t.program.any MusicInstr.clearsStopping

instance (s : MusicTasks) : Decidable s.PlayerWill :=
  inferInstanceAs (Decidable (∃ t ∈ s.threads, _))

/-- A caller that waits with `music_stopping` set has a player that will clear it, and while a
player is in its loop `music_playing` is set. -/
structure CanStop (s : MusicTasks) : Prop where
  answered : ∀ i, s.head i = some .whileStopping → s.state.musicStopping = true → s.PlayerWill
  playing : ∀ i ins, s.head i = some ins → ins.inLoop = true → s.state.musicPlaying = true

/-- How many of the waiting instructions are of a kind. -/
def todo (p : MusicInstr → Bool) (s : MusicTasks) : Nat := s.pending.countP p

end MusicTasks

/-- A stop is asked of a player that will clear the flag, and `music_playing` is reset while no
music is being played or prepared. -/
def MusicInstr.Heeded (s : MusicTasks) (ins : MusicInstr) : Prop :=
  (ins = .setStopping → s.PlayerWill) ∧
    (ins.resetsPlaying = true → s.todo MusicInstr.needsPlaying = 0)

instance (s : MusicTasks) (ins : MusicInstr) : Decidable (ins.Heeded s) :=
  inferInstanceAs (Decidable (_ ∧ _))

namespace MusicTasks

/-- The condition on an event. -/
def Heeded (s : MusicTasks) : MusicEvent → Prop
  | .exec i _ => ∀ ins ∈ s.head i, ins.Heeded s
  | _ => True

instance (s : MusicTasks) (e : MusicEvent) : Decidable (s.Heeded e) :=
  match e with
  | .exec i _ => inferInstanceAs (Decidable (∀ ins ∈ s.head i, ins.Heeded s))
  | .play _ | .stop => isTrue trivial

/-- Music can be stopped all along the run. -/
def KeepsCanStop (es : List MusicEvent) : Prop :=
  ∀ pre s, pre <+: es → run step initial pre = some s → s.CanStop

end MusicTasks

/-! ### One instruction -/

section Step

variable {s : MusicState} {x : MusicInput} {ins : MusicInstr}

/-- Only `stop_music` sets `music_stopping`, and an instruction of a player that leaves it set calls
one from which on the player will clear it. -/
theorem exec_stopping (h : (ins.exec s x).state.musicStopping = true) :
    (s.musicStopping = true ∨ ins = .setStopping) ∧
      [ins].countP MusicInstr.clearsStopping ≤
        (ins.exec s x).calls.countP MusicInstr.clearsStopping := by
  cases ins
  case clearStopping => exact absurd h Bool.false_ne_true
  case setStopping => exact ⟨.inr rfl, Nat.zero_le _⟩
  all_goals
    refine ⟨.inl h, ?_⟩
    simp only [MusicInstr.exec]
    repeat' split
  all_goals simp [MusicInstr.clearsStopping, MusicInstr.inLoop, stopMusicCall]

/-- An instruction that does not reset `music_playing` sets it, or leaves it and calls only for what
it is needed for itself. -/
theorem exec_playing (h : ins.resetsPlaying = false) :
    (ins.exec s x).state.musicPlaying = true ∨
      (ins.exec s x).state.musicPlaying = s.musicPlaying ∧
        (ins.exec s x).calls.countP MusicInstr.needsPlaying +
          ((ins.exec s x).created.flatMap Thread.program).countP MusicInstr.needsPlaying ≤
            [ins].countP MusicInstr.needsPlaying := by
  cases ins
  case setPlaying => exact .inl rfl
  case unsetPlaying => exact absurd h (by decide)
  case clearPlaying => exact absurd h (by decide)
  all_goals
    refine .inr ⟨rfl, ?_⟩
    simp only [MusicInstr.exec]
    repeat' split
  all_goals simp [MusicInstr.needsPlaying, stopMusicCall, musicPlayThread]

/-- An instruction that resets `music_playing` is the last one of its function. -/
theorem exec_resets (h : ins.resetsPlaying = true) :
    (ins.exec s x).calls = [] ∧ (ins.exec s x).created = [] := by
  cases ins
  case unsetPlaying => exact ⟨rfl, rfl⟩
  case clearPlaying => exact ⟨rfl, rfl⟩
  all_goals exact absurd h (by simp [MusicInstr.resetsPlaying])

/-- An instruction calls one of a player only if it is one, and creates only players. -/
theorem exec_roles (s : MusicState) (x : MusicInput) (ins : MusicInstr) :
    ((ins.exec s x).calls.any MusicInstr.clearsStopping → ins.clearsStopping = true) ∧
      ∀ t ∈ (ins.exec s x).created, t.role = .player := by
  cases ins
  all_goals
    simp only [MusicInstr.exec]
    repeat' split
  all_goals simp [MusicInstr.clearsStopping, MusicInstr.inLoop, stopMusicCall]

end Step

namespace MusicTasks

/-! ### The runs -/

/-- Instructions from which on `music_stopping` will be cleared run in a player, one is left when
the flag is set, and `music_playing` is set when something counts on it. -/
structure FlagsInv (s : MusicTasks) : Prop where
  roles : ∀ t ∈ s.threads, t.program.any MusicInstr.clearsStopping → t.role = .player
  stopping : s.state.musicStopping = true → 0 < s.todo MusicInstr.clearsStopping
  playing : 0 < s.todo MusicInstr.needsPlaying → s.state.musicPlaying = true

/-- Without a thread no flag is set. -/
theorem flagsInv_initial : FlagsInv initial where
  roles := List.forall_mem_nil _
  stopping h := nomatch h
  playing h := nomatch h

section Runs

variable {s t : MusicTasks} {p : MusicInstr → Bool} {i : Nat} {ins : MusicInstr}

/-- A call adds its program. -/
theorem todo_call (program : List MusicInstr) :
    (s.call program).todo p = s.todo p + program.countP p :=
  System.countP_pending_add s ⟨.caller, program⟩ p

/-- A player will clear the flag exactly when an instruction that leads there is left. -/
theorem FlagsInv.playerWill_iff (h : FlagsInv s) :
    s.PlayerWill ↔ 0 < s.todo MusicInstr.clearsStopping :=
  System.RunsIn.exists_iff h.roles fun _ h ↦ h

/-- A call of `play_music` or `stop_music` starts with a test. -/
theorem FlagsInv.call (h : FlagsInv s) (hclears : ins.clearsStopping = false)
    (hneeds : ins.needsPlaying = false) : FlagsInv (s.call [ins]) := by
  refine ⟨System.RunsIn.add h.roles ?_, ?_, ?_⟩
  · intro hany
    rw [List.any_cons, hclears] at hany
    exact absurd hany Bool.false_ne_true
  · intro hstopping
    rw [todo_call]
    exact Nat.lt_of_lt_of_le (h.stopping hstopping) (Nat.le_add_right _ _)
  · intro hpos
    rw [todo_call, List.countP_singleton, hneeds, if_neg Bool.false_ne_true] at hpos
    exact h.playing hpos

/-- After an instruction that leaves `music_stopping` set one is left from which on it will be
cleared. -/
theorem FlagsInv.stopping_exec (h : FlagsInv s) {x : MusicInput} {n : Nat}
    (hasked : ins = .setStopping → s.PlayerWill)
    (hcount : n + [ins].countP MusicInstr.clearsStopping =
      s.todo MusicInstr.clearsStopping +
        (ins.exec s.state x).calls.countP MusicInstr.clearsStopping +
        ((ins.exec s.state x).created.flatMap Thread.program).countP MusicInstr.clearsStopping)
    (hstopping : (ins.exec s.state x).state.musicStopping = true) : 0 < n := by
  obtain ⟨hset, hcalls⟩ := exec_stopping hstopping
  have hpos : 0 < s.todo MusicInstr.clearsStopping := by
    rcases hset with hset | rfl
    · exact h.stopping hset
    · exact h.playerWill_iff.mp (hasked rfl)
  omega

/-- After an instruction, `music_playing` is set when something counts on it. -/
theorem FlagsInv.playing_exec (h : FlagsInv s) {x : MusicInput} {n : Nat}
    (hreset : ins.resetsPlaying = true → s.todo MusicInstr.needsPlaying = 0)
    (hcount : n + [ins].countP MusicInstr.needsPlaying =
      s.todo MusicInstr.needsPlaying +
        (ins.exec s.state x).calls.countP MusicInstr.needsPlaying +
        ((ins.exec s.state x).created.flatMap Thread.program).countP MusicInstr.needsPlaying)
    (hpos : 0 < n) : (ins.exec s.state x).state.musicPlaying = true := by
  by_cases hresets : ins.resetsPlaying = true
  · have hnone := hreset hresets
    obtain ⟨hcalls, hcreated⟩ := exec_resets (s := s.state) (x := x) hresets
    rw [hcalls, hcreated] at hcount
    simp only [List.flatMap_nil, List.countP_nil] at hcount
    omega
  · rcases exec_playing (s := s.state) (x := x) (Bool.eq_false_iff.mpr hresets) with
      hset | ⟨hsame, hcalls⟩
    · exact hset
    · rw [hsame]
      apply h.playing
      omega

/-- The next instruction of a thread keeps the invariant when it meets the condition. -/
theorem FlagsInv.exec (h : FlagsInv s) {x : MusicInput} (he : s.Heeded (.exec i x))
    (ht : s.step (.exec i x) = some t) : FlagsInv t := by
  have hexec : System.exec (fun s ins x ↦ some (MusicInstr.exec s x ins)) i x s = some t := ht
  obtain ⟨ins, o, hhead, ho, hstate, hcount⟩ := System.countP_exec hexec
  obtain ⟨hasked, hreset⟩ := he ins hhead
  cases ho
  refine ⟨?_, ?_, ?_⟩
  · apply System.RunsIn.exec h.roles hexec
    intro ins o ho
    cases ho
    exact exec_roles s.state x ins
  · intro hstopping
    rw [hstate] at hstopping
    exact h.stopping_exec hasked (hcount _) hstopping
  · intro hpos
    rw [hstate]
    exact h.playing_exec hreset (hcount _) hpos

/-- Every step that meets the condition keeps the invariant. -/
theorem FlagsInv.step {e : MusicEvent} (h : FlagsInv s) (he : s.Heeded e)
    (ht : s.step e = some t) : FlagsInv t := by
  cases e with
  | play d =>
    cases ht
    exact h.call rfl rfl
  | stop =>
    cases ht
    exact h.call rfl rfl
  | exec i x => exact h.exec he ht

/-- What is in the playback loop counts on `music_playing`. -/
theorem needsPlaying_of_inLoop (h : ins.inLoop = true) : ins.needsPlaying = true := by
  cases ins <;> first | rfl | exact absurd h (by simp [MusicInstr.inLoop])

/-- The invariant says that music can be stopped. -/
theorem FlagsInv.canStop (h : FlagsInv s) : s.CanStop where
  answered _ _ hstopping := h.playerWill_iff.mpr (h.stopping hstopping)
  playing _ _ hhead hins :=
    h.playing (System.countP_pos_of_head hhead (needsPlaying_of_inLoop hins))

/-! ### Where the condition fails -/

/-- Resetting `music_playing` does not count on it. -/
theorem not_needsPlaying_of_resets (h : ins.resetsPlaying = true) : ins.needsPlaying = false := by
  cases ins
  case unsetPlaying => rfl
  case clearPlaying => rfl
  all_goals exact absurd h (by simp [MusicInstr.resetsPlaying])

/-- Only the first instruction of a thread counts on `music_playing`. -/
def NeedsFirst (s : MusicTasks) : Prop :=
  ∀ t ∈ s.threads, ∀ ins ∈ t.program.tail, ins.needsPlaying = false

/-- What is called behind the first instruction does not count on `music_playing`. -/
theorem exec_tail (s : MusicState) (x : MusicInput) (ins : MusicInstr) :
    (∀ a ∈ (ins.exec s x).calls.tail, a.needsPlaying = false) ∧
      ∀ t ∈ (ins.exec s x).created, t.program.tail = [] := by
  cases ins
  all_goals
    simp only [MusicInstr.exec]
    repeat' split
  all_goals simp [stopMusicCall, musicPlayThread, MusicInstr.needsPlaying]

/-- A call has one instruction. -/
theorem NeedsFirst.call (h : NeedsFirst s) : NeedsFirst (s.call [ins]) := by
  intro t ht
  rcases List.mem_append.mp ht with ht | ht
  · exact h t ht
  · rw [List.mem_singleton.mp ht]
    exact List.forall_mem_nil _

/-- A step keeps it. -/
theorem NeedsFirst.step {e : MusicEvent} (h : NeedsFirst s) (ht : s.step e = some t) :
    NeedsFirst t := by
  cases e with
  | play d =>
    cases ht
    exact h.call
  | stop =>
    cases ht
    exact h.call
  | exec i x =>
    have hexec : System.exec (fun s ins x ↦ some (MusicInstr.exec s x ins)) i x s = some t := ht
    refine System.exec_forall
      (T := fun _ t ↦ ∀ a ∈ t.program.tail, MusicInstr.needsPlaying a = false) hexec h ?_
    intro role ins rest o hthread ho
    cases ho
    obtain ⟨hcalls, hcreated⟩ := exec_tail s.state x ins
    have hrest : ∀ a ∈ rest, a.needsPlaying = false := h _ (List.mem_of_getElem? hthread)
    refine ⟨?_, ?_, fun _ h ↦ h⟩
    · intro a ha
      cases hlist : (ins.exec s.state x).calls with
      | nil =>
        rw [hlist] at ha
        exact hrest a (List.mem_of_mem_tail ha)
      | cons b calls =>
        rw [hlist] at ha hcalls
        exact (List.mem_append.mp ha).elim (hcalls a) (hrest a)
    · intro t ht a ha
      rw [hcreated t ht] at ha
      exact absurd ha List.not_mem_nil

/-- From here steps that meet the condition can lead to a state in which music cannot be stopped. -/
def Lost (s : MusicTasks) : Prop :=
  ∃ es t, StepsMeet Heeded step s es ∧ run step s es = some t ∧ ¬ t.CanStop

/-- A step to such a state. -/
theorem Lost.of_step {e : MusicEvent} (he : s.Heeded e) (ht : s.step e = some t) (h : Lost t) :
    Lost s := by
  obtain ⟨es, u, hes, hrun, hu⟩ := h
  refine ⟨e :: es, u, stepsMeet_cons.mpr ⟨he, ?_⟩, run_cons_some.mpr ⟨t, ht, hrun⟩, hu⟩
  intro t' ht'
  cases ht.symm.trans ht'
  exact hes

/-- The condition is about two kinds of instructions only. -/
theorem heeded_of_needsPlaying {x : MusicInput} (hhead : s.head i = some ins)
    (hins : ins.needsPlaying = true) : s.Heeded (.exec i x) := by
  intro a ha
  cases hhead.symm.trans ha
  constructor
  · rintro rfl
    exact absurd hins (by decide)
  · intro hresets
    exact absurd ((not_needsPlaying_of_resets hresets).symm.trans hins) (by decide)

/-- The step of a thread. -/
theorem step_exec {role : MusicRole} {rest : List MusicInstr} (x : MusicInput)
    (h : s.threads[i]? = some ⟨role, ins :: rest⟩) :
    s.step (.exec i x) = some ⟨(ins.exec s.state x).state,
      s.threads.set i ⟨role, (ins.exec s.state x).calls ++ rest⟩ ++
        (ins.exec s.state x).created⟩ := by
  simp only [step, System.exec, h, Option.map_some]

/-- The instruction that a thread runs next, read off its program. -/
theorem head_of_thread {role : MusicRole} {rest : List MusicInstr}
    (h : s.threads[i]? = some ⟨role, ins :: rest⟩) : s.head i = some ins := by
  rw [System.head, h]
  rfl

/-- A thread whose next instruction calls another one that leads to such a state. -/
theorem Lost.of_call {a b : MusicInstr} {role : MusicRole} {rest : List MusicInstr} (x : MusicInput)
    (h : s.threads[i]? = some ⟨role, a :: rest⟩) (ha : a.needsPlaying = true)
    (hcalls : (a.exec s.state x).calls = [b])
    (hplaying : (a.exec s.state x).state.musicPlaying = false)
    (hb : ∀ t : MusicTasks, t.threads[i]? = some ⟨role, b :: rest⟩ →
      t.state.musicPlaying = false → Lost t) : Lost s := by
  refine .of_step (heeded_of_needsPlaying (head_of_thread h) ha) (step_exec x h) (hb _ ?_ hplaying)
  rw [hcalls]
  exact System.getElem?_stepped h

/-- A player in its loop without `music_playing` cannot be stopped. -/
theorem lost_of_inLoop {role : MusicRole} {rest : List MusicInstr}
    (h : s.threads[i]? = some ⟨role, ins :: rest⟩) (hins : ins.inLoop = true)
    (hplaying : s.state.musicPlaying = false) : Lost s := by
  refine ⟨[], s, stepsMeet_nil, rfl, fun hcan ↦ ?_⟩
  rw [hcan.playing i ins (head_of_thread h) hins] at hplaying
  exact absurd hplaying (by decide)

/-- A player that starts without `music_playing` comes to its loop without it. -/
theorem lost_of_addStream {role : MusicRole} {rest : List MusicInstr}
    (h : s.threads[i]? = some ⟨role, .addStream :: rest⟩)
    (hplaying : s.state.musicPlaying = false) : Lost s := by
  apply Lost.of_call ⟨true, 0⟩ h rfl rfl hplaying
  intro t ht
  exact lost_of_inLoop ht rfl

/-- So does one that is created without it. -/
theorem lost_of_createPlayer {role : MusicRole} {rest : List MusicInstr}
    (h : s.threads[i]? = some ⟨role, .createPlayer :: rest⟩)
    (hplaying : s.state.musicPlaying = false) : Lost s := by
  refine .of_step (heeded_of_needsPlaying (head_of_thread h) rfl) (step_exec ⟨true, 0⟩ h) ?_
  have hcreated : (s.threads.set i ⟨role, rest⟩ ++
      [⟨.player, musicPlayThread⟩])[s.threads.length]? = some ⟨.player, [.addStream]⟩ := by
    simp [musicPlayThread]
  exact lost_of_addStream hcreated hplaying

/-- What counts on `music_playing` while it is not set leads to a player that cannot be stopped. -/
theorem lost_of_needsPlaying {role : MusicRole} {rest : List MusicInstr}
    (h : s.threads[i]? = some ⟨role, ins :: rest⟩) (hins : ins.needsPlaying = true)
    (hplaying : s.state.musicPlaying = false) : Lost s := by
  have hduration (d : Int32) (s : MusicTasks)
      (h : s.threads[i]? = some ⟨role, .setDuration d :: rest⟩)
      (hplaying : s.state.musicPlaying = false) : Lost s := by
    apply Lost.of_call ⟨true, 0⟩ h rfl rfl hplaying
    intro t
    exact lost_of_createPlayer
  cases ins
  case setMusic d =>
    apply Lost.of_call ⟨true, 0⟩ h rfl rfl hplaying
    intro t
    exact hduration d t
  case setDuration d => exact hduration d s h hplaying
  case createPlayer => exact lost_of_createPlayer h hplaying
  case addStream => exact lost_of_addStream h hplaying
  all_goals exact lost_of_inLoop h hins hplaying

/-- A stop that is asked while no player will clear the flag is not answered. -/
theorem lost_of_setStopping {x : MusicInput} (hhead : s.head i = some .setStopping)
    (hnone : ¬ s.PlayerWill) (ht : s.step (.exec i x) = some t) : Lost t := by
  have hexec : System.exec (fun s ins x ↦ some (MusicInstr.exec s x ins)) i x s = some t := ht
  obtain ⟨role, ins, rest, o, hthread, ho, rfl⟩ := System.exec_some hexec
  cases (head_of_thread hthread).symm.trans hhead
  cases ho
  refine ⟨[], _, stepsMeet_nil, rfl, fun hcan ↦ hnone ?_⟩
  obtain ⟨u, hu, hrole, hany⟩ :=
    hcan.answered i (head_of_thread (System.getElem?_stepped hthread)) rfl
  rcases List.mem_append.mp hu with hu | hu
  · rcases List.mem_or_eq_of_mem_set hu with hu | rfl
    · exact ⟨u, hu, hrole, hany⟩
    · refine ⟨_, List.mem_of_getElem? hthread, hrole, ?_⟩
      exact hany
  · exact absurd hu List.not_mem_nil

/-- `music_playing` is reset while something counts on it. -/
theorem lost_of_resets (h : NeedsFirst s) {x : MusicInput} (hhead : s.head i = some ins)
    (hresets : ins.resetsPlaying = true) (hsome : s.todo MusicInstr.needsPlaying ≠ 0)
    (ht : s.step (.exec i x) = some t) : Lost t := by
  have hexec : System.exec (fun s ins x ↦ some (MusicInstr.exec s x ins)) i x s = some t := ht
  obtain ⟨role, first, rest, o, hthread, ho, rfl⟩ := System.exec_some hexec
  cases (head_of_thread hthread).symm.trans hhead
  cases ho
  obtain ⟨a, hmem, ha⟩ := List.countP_pos_iff.mp (Nat.pos_of_ne_zero hsome)
  obtain ⟨u, hu, hmem⟩ := List.mem_flatMap.mp hmem
  obtain ⟨j, hj⟩ := List.mem_iff_getElem?.mp hu
  obtain ⟨other, program⟩ := u
  have htail := h _ hu
  -- What counts on the flag is the next instruction of its thread, so that thread is another one.
  cases hmem with
  | tail _ hmem => exact absurd ((htail a hmem).symm.trans ha) (by decide)
  | head =>
    have hij : i ≠ j := by
      rintro rfl
      cases hthread.symm.trans hj
      exact absurd ((not_needsPlaying_of_resets hresets).symm.trans ha) (by decide)
    refine lost_of_needsPlaying (System.getElem?_other hij hj) ha ?_
    cases ins
    case unsetPlaying => rfl
    case clearPlaying => rfl
    all_goals exact absurd hresets (by simp [MusicInstr.resetsPlaying])

/-- After one event that does not meet the condition, events that all meet it can lead to a state
in which music cannot be stopped. -/
theorem lost_of_not_heeded {es : List MusicEvent} {e : MusicEvent}
    (hs : run step initial es = some s) (he : ¬ s.Heeded e) (ht : s.step e = some t) : Lost t := by
  have hinitial : NeedsFirst initial := fun t ht ↦ absurd ht List.not_mem_nil
  have hfirst : NeedsFirst s :=
    run_invariant (I := NeedsFirst) hinitial (fun _ _ _ h ht ↦ h.step ht) hs
  cases e with
  | play d => exact absurd trivial he
  | stop => exact absurd trivial he
  | exec i x =>
    by_cases hlost : Lost t
    · exact hlost
    · refine absurd (fun ins hhead ↦ ⟨?_, ?_⟩) he
      · rintro rfl
        by_cases hwill : s.PlayerWill
        · exact hwill
        · exact absurd (lost_of_setStopping hhead hwill ht) hlost
      · intro hresets
        by_cases hnone : s.todo MusicInstr.needsPlaying = 0
        · exact hnone
        · exact absurd (lost_of_resets hfirst hhead hresets hnone ht) hlost

end Runs

/-- Music can be stopped all along a run whose stops are asked of a player that will clear the flag
for them, and in which `music_playing` is reset while no music is being played or prepared. -/
theorem keepsCanStop_of_heeded {es : List MusicEvent} (h : StepsMeet Heeded step initial es) :
    KeepsCanStop es := by
  rintro pre s ⟨post, rfl⟩ hs
  have hinv : FlagsInv s := run_invariant_of_meet flagsInv_initial
    (fun _ _ _ hu he ht ↦ hu.step he ht) h.left hs
  exact hinv.canStop

/-- The next instruction of a thread, with what it finds being so or not. -/
private def next (i : Nat) (ok : Bool) : MusicEvent := .exec i ⟨ok, 0⟩

/-- Music is played, and the player ends its loop when it is stopped. -/
private def playAndStop : List MusicEvent :=
  [.play 0, next 0 true, next 0 true, next 0 true, next 0 true, next 0 true, next 1 true, .stop,
    next 2 true, next 2 true, next 1 true, next 1 true, next 1 true, next 2 true, next 1 true]

/-- A call of each function that meets the condition. -/
theorem keepsCanStop_playAndStop :
    (run step initial playAndStop).isSome = true ∧ KeepsCanStop playAndStop :=
  ⟨rfl, keepsCanStop_of_heeded (by decide)⟩

/-- The renderer refuses a chunk, and the player clears the flags between the test of `stop_music`
and its request. -/
private def stopAtEnd : List MusicEvent :=
  [.play 0, next 0 true, next 0 true, next 0 true, next 0 true, next 0 true, next 1 true,
    next 1 true, next 1 false, next 1 true, .stop, next 2 true, next 1 true, next 1 true,
    next 2 true]

/-- A stop that finds music playing and asks when it has ended waits. -/
theorem stop_behind_end : ¬ ∀ es, KeepsCanStop es := by
  intro h
  have hcan := h stopAtEnd stopAtEnd _ (List.prefix_refl _) rfl
  exact absurd (hcan.answered 2 rfl rfl) (by decide)

end MusicTasks

end Esp32Robot.Webrtc
