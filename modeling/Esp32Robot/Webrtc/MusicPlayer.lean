import Mathlib.Data.Nat.Find
import Mathlib.Logic.Function.Iterate

/-!
# The music player of the P4

The thread of `IDF_esp32p4_webrtc/main/media_sys.c` that hands a buffer of AAC
frames to the renderer, one frame in an iteration, for a duration or for one loop.
-/

namespace Esp32Robot.Webrtc

/-- `music_to_play` and `music_size`, `media_sys.c:58–59`; the bytes go on behind the buffer. -/
structure Music where
  bytes : Nat → UInt8
  size : Nat

namespace Music

/-- `frame_size` of the ADTS header at a position, `media_sys.c:319`. -/
def frameSize (m : Music) (pos : Nat) : Nat :=
  ((m.bytes (pos + 3)).toNat &&& 0x03) <<< 11 ||| (m.bytes (pos + 4)).toNat <<< 3 |||
    (m.bytes (pos + 5)).toNat >>> 5

/-- `send_size` at a position, `media_sys.c:314–323`. -/
def sendSize (m : Music) (pos : Nat) : Nat :=
  if m.bytes pos ≠ 0xFF then 0
  else if m.frameSize pos < m.size - pos then m.frameSize pos
  else m.size - pos

/-- The pass is over after the chunk at a position, `media_sys.c:335`. -/
def passOver (m : Music) (pos : Nat) : Prop :=
  m.size ≤ pos + m.sendSize pos ∨ m.sendSize pos = 0

instance (m : Music) (pos : Nat) : Decidable (m.passOver pos) :=
  inferInstanceAs (Decidable (_ ∨ _))

/-- Where the iteration after the one at a position starts. -/
def nextPos (m : Music) (pos : Nat) : Nat :=
  if m.passOver pos then 0 else pos + m.sendSize pos

end Music

/-- Where the thread is: in its loop, in the inner one that waits for the renderer to play the last
of one full loop, or behind both. -/
inductive MusicPhase where
  | playing
  | draining
  | finished
  deriving DecidableEq, Repr

/-- A call of `av_render_add_audio_data`: position, size, and the time measured before it. -/
structure MusicChunk where
  pos : Nat
  size : Nat
  before : Nat
  deriving DecidableEq, Repr

/-- `music_duration`, the `music_pos` of the thread, its calls of the renderer, and the sum of the
times that its iterations measured. -/
structure MusicPlayer where
  duration : Int32
  pos : Nat
  phase : MusicPhase
  chunks : List MusicChunk
  elapsed : Nat
  deriving DecidableEq, Repr

/-- What one iteration finds: `music_stopping`, whether the renderer takes the chunk, whether its
queue is empty, and `end_time - start_time`. -/
structure MusicTurn where
  stopping : Bool
  rendered : Bool
  fifoEmpty : Bool
  elapsed : UInt32
  deriving DecidableEq, Repr

namespace MusicPlayer

/-- The call of the renderer, `media_sys.c:324–329`. -/
def handChunk (m : Music) (s : MusicPlayer) : MusicPlayer :=
  if m.sendSize s.pos = 0 then s
  else { s with chunks := s.chunks ++ [⟨s.pos, m.sendSize s.pos, s.elapsed⟩] }

@[simp] theorem handChunk_duration (m : Music) (s : MusicPlayer) :
    (s.handChunk m).duration = s.duration := by
  unfold handChunk
  split <;> rfl

@[simp] theorem handChunk_phase (m : Music) (s : MusicPlayer) :
    (s.handChunk m).phase = s.phase := by
  unfold handChunk
  split <;> rfl

@[simp] theorem handChunk_elapsed (m : Music) (s : MusicPlayer) :
    (s.handChunk m).elapsed = s.elapsed := by
  unfold handChunk
  split <;> rfl

/-- The measured time is taken off the duration, `media_sys.c:351–354`. -/
def spend (elapsed : UInt32) (s : MusicPlayer) : MusicPlayer :=
  { s with
    duration := if s.duration = 0 then s.duration else s.duration - elapsed.toInt32
    elapsed := s.elapsed + elapsed.toNat }

/-- One iteration of the loop, `media_sys.c:312–355`. -/
def iterate (m : Music) (t : MusicTurn) (s : MusicPlayer) : MusicPlayer :=
  if t.stopping = true ∨ s.duration < 0 then { s with phase := .finished }
  else if m.sendSize s.pos ≠ 0 ∧ t.rendered = false then
    { s.handChunk m with phase := .finished }
  else if m.passOver s.pos ∧ s.duration = 0 then
    { s.handChunk m with pos := 0, phase := .draining }
  else { s.handChunk m with pos := m.nextPos s.pos }.spend t.elapsed

/-- One iteration of the inner loop, `media_sys.c:340–348`. -/
def drain (t : MusicTurn) (s : MusicPlayer) : MusicPlayer :=
  if t.stopping = true ∨ t.fifoEmpty = true then { s with phase := .finished } else s

/-- The thread's next iteration. -/
def turn (m : Music) (t : MusicTurn) (s : MusicPlayer) : MusicPlayer :=
  match s.phase with
  | .playing => s.iterate m t
  | .draining => s.drain t
  | .finished => s

end MusicPlayer

/-- `play_music` when no music is playing and the thread starts: `music_play_thread` up to its loop,
`media_sys.c:305–311,367–370`. -/
def playMusic (duration : Int32) : MusicPlayer := ⟨duration, 0, .playing, [], 0⟩

/-- The player after `n` turns. -/
def playerAfter (m : Music) (duration : Int32) (turns : Nat → MusicTurn) : Nat → MusicPlayer
  | 0 => playMusic duration
  | n + 1 => (playerAfter m duration turns n).turn m (turns n)

/-- No stop request comes, and the renderer takes every chunk. -/
def Undisturbed (turns : Nat → MusicTurn) : Prop :=
  ∀ n, (turns n).stopping = false ∧ (turns n).rendered = true

/-- The time that the first `n` turns measure. -/
def totalElapsed (turns : Nat → MusicTurn) : Nat → Nat
  | 0 => 0
  | n + 1 => totalElapsed turns n + (turns n).elapsed.toNat

/-- With a positive duration no chunk is handed out once the measured times reach it, and one full
loop is played exactly for the duration 0. -/
def PlaysAsAsked (m : Music) (duration : Int32) (turns : Nat → MusicTurn) : Prop :=
  (0 < duration → ∀ n, ∀ c ∈ (playerAfter m duration turns n).chunks,
    (c.before : Int) < duration.toInt) ∧
  ((∃ n, (playerAfter m duration turns n).phase = .draining) ↔ duration = 0)

/-- How far the first `n` turns pass the duration, in 32 bits. -/
def lateness (duration : Int32) (turns : Nat → MusicTurn) (n : Nat) : Int :=
  (totalElapsed turns n - duration.toInt) % 4294967296

/-- No time is left after `n` turns, as the sign of 32 bits tells it. -/
def TimeOver (duration : Int32) (turns : Nat → MusicTurn) (n : Nat) : Prop :=
  lateness duration turns n ≤ 2147483648

instance (duration : Int32) (turns : Nat → MusicTurn) (n : Nat) :
    Decidable (TimeOver duration turns n) :=
  inferInstanceAs (Decidable (_ ≤ _))

/-- The times pass the duration without meeting it, and where they pass it by so much that 32 bits
do not tell it, the walk over the buffer finds no chunk until they do. -/
def PassesDuration (m : Music) (duration : Int32) (turns : Nat → MusicTurn) : Prop :=
  ∀ n, (∀ i < n, ¬ TimeOver duration turns i) →
    lateness duration turns n ≠ 0 ∧
      (¬ TimeOver duration turns n → duration.toInt ≤ totalElapsed turns n →
        m.sendSize (m.nextPos^[n] 0) = 0)

/-! ### The remaining time -/

/-- The sign of the remaining time in 32 bits. -/
theorem bmod_nonpos_iff (x : Int) : x.bmod 4294967296 ≤ 0 ↔ -x % 4294967296 ≤ 2147483648 := by
  rw [Int.bmod_eq_emod]
  split <;> omega

/-- The remaining time in 32 bits is 0. -/
theorem bmod_eq_zero_iff (x : Int) : x.bmod 4294967296 = 0 ↔ -x % 4294967296 = 0 := by
  rw [Int.bmod_eq_emod]
  split <;> omega

/-- The subtraction of a measured time. -/
theorem toInt_sub_toInt32 (duration : Int32) (elapsed : UInt32) :
    (duration - elapsed.toInt32).toInt = (duration.toInt - elapsed.toNat).bmod 4294967296 := by
  have h : elapsed.toInt32.toInt = (elapsed.toNat : Int).bmod 4294967296 := by
    rw [Int32.toInt, UInt32.toBitVec_toInt32, BitVec.toInt_eq_toNat_bmod, UInt32.toNat_toBitVec]
  rw [Int32.toInt_sub, h, Int.sub_bmod_bmod]

/-! ### The timed loop -/

/-- The player after `n` iterations that all left time. -/
structure LoopTimed (m : Music) (duration : Int32) (turns : Nat → MusicTurn) (n : Nat)
    (s : MusicPlayer) : Prop where
  phase : s.phase = .playing
  duration : s.duration.toInt = (duration.toInt - totalElapsed turns n).bmod 4294967296
  pos : s.pos = m.nextPos^[n] 0
  elapsed : s.elapsed = totalElapsed turns n
  chunks : ∀ c ∈ s.chunks, ∃ i < n,
    m.sendSize (m.nextPos^[i] 0) ≠ 0 ∧ c.before = totalElapsed turns i

section Turns

variable {m : Music} {duration : Int32} {turns : Nat → MusicTurn} {n : Nat} {s : MusicPlayer}

/-- No time is left: the remaining time is not positive. -/
theorem timeOver_iff (h : LoopTimed m duration turns n s) :
    TimeOver duration turns n ↔ s.duration.toInt ≤ 0 := by
  rw [h.duration, bmod_nonpos_iff, Int.neg_sub]
  exact Iff.rfl

/-- With time left the remaining time is positive. -/
theorem toInt_pos_of_left (h : LoopTimed m duration turns n s)
    (hleft : ¬ TimeOver duration turns n) : 0 < s.duration.toInt := by
  rw [timeOver_iff h] at hleft
  omega

/-- The times meet the duration: the remaining time is 0. -/
theorem lateness_eq_zero_iff (h : LoopTimed m duration turns n s) :
    lateness duration turns n = 0 ↔ s.duration = 0 := by
  rw [← Int32.toInt_inj, h.duration, Int32.toInt_zero, bmod_eq_zero_iff, Int.neg_sub]
  exact Iff.rfl

/-- An iteration that starts with time left. -/
theorem iterate_of_pos {t : MusicTurn} (hstop : t.stopping = false) (hrendered : t.rendered = true)
    (hpos : 0 < s.duration.toInt) :
    s.iterate m t = { s.handChunk m with
      pos := m.nextPos s.pos
      duration := s.duration - t.elapsed.toInt32
      elapsed := s.elapsed + t.elapsed.toNat } := by
  have hneg : ¬ s.duration < 0 := by
    rw [Int32.lt_iff_toInt_lt, Int32.toInt_zero]
    omega
  have hzero : s.duration ≠ 0 := by
    intro h
    rw [h, Int32.toInt_zero] at hpos
    omega
  simp [MusicPlayer.iterate, MusicPlayer.spend, hstop, hrendered, hneg, hzero]

/-- A chunk is handed out at the current position, with the time measured so far. -/
theorem mem_handChunk {c : MusicChunk} (h : c ∈ (s.handChunk m).chunks) :
    c ∈ s.chunks ∨ m.sendSize s.pos ≠ 0 ∧ c.before = s.elapsed := by
  unfold MusicPlayer.handChunk at h
  split at h
  · exact .inl h
  · next hsize =>
    rcases List.mem_append.mp h with h | h
    · exact .inl h
    · cases List.mem_singleton.mp h
      exact .inr ⟨hsize, rfl⟩

/-- The thread enters its loop. -/
theorem loopTimed_playMusic : LoopTimed m duration turns 0 (playMusic duration) where
  phase := rfl
  duration := by simp [playMusic, totalElapsed]
  pos := rfl
  elapsed := rfl
  chunks := List.forall_mem_nil _

/-- One iteration with time left. -/
theorem loopTimed_turn (hturns : Undisturbed turns) (h : LoopTimed m duration turns n s)
    (hleft : ¬ TimeOver duration turns n) :
    LoopTimed m duration turns (n + 1) (s.turn m (turns n)) := by
  have hpos := toInt_pos_of_left h hleft
  have hturn : s.turn m (turns n) = s.iterate m (turns n) := by
    simp only [MusicPlayer.turn, h.phase]
  rw [hturn, iterate_of_pos (hturns n).1 (hturns n).2 hpos]
  constructor
  · exact (MusicPlayer.handChunk_phase m s).trans h.phase
  · rw [toInt_sub_toInt32, h.duration, Int.bmod_sub_bmod]
    congr 1
    simp only [totalElapsed, Int.natCast_add]
    omega
  · rw [Function.iterate_succ_apply', ← h.pos]
  · exact congrArg (· + _) h.elapsed
  · intro c hc
    rcases mem_handChunk hc with hc | ⟨hsize, hbefore⟩
    · obtain ⟨i, hi, hchunk⟩ := h.chunks c hc
      exact ⟨i, by omega, hchunk⟩
    · rw [h.pos] at hsize
      exact ⟨n, by omega, hsize, hbefore.trans h.elapsed⟩

/-- As long as time is left the loop goes on. -/
theorem loopTimed_playerAfter (hturns : Undisturbed turns)
    (h : ∀ i < n, ¬ TimeOver duration turns i) :
    LoopTimed m duration turns n (playerAfter m duration turns n) := by
  induction n with
  | zero => exact loopTimed_playMusic
  | succ n ih =>
    exact loopTimed_turn hturns (ih fun i hi ↦ h i (by omega)) (h n (by omega))

/-- With time left, the chunk at the current position is handed out. -/
theorem chunk_of_timed (hturns : Undisturbed turns) (h : LoopTimed m duration turns n s)
    (hleft : ¬ TimeOver duration turns n) (hsize : m.sendSize (m.nextPos^[n] 0) ≠ 0) :
    ∃ c ∈ (s.turn m (turns n)).chunks, c.before = totalElapsed turns n := by
  have hpos := toInt_pos_of_left h hleft
  rw [← h.pos] at hsize
  refine ⟨⟨s.pos, m.sendSize s.pos, s.elapsed⟩, ?_, h.elapsed⟩
  simp only [MusicPlayer.turn, h.phase]
  rw [iterate_of_pos (hturns n).1 (hturns n).2 hpos]
  simp [MusicPlayer.handChunk, hsize]

/-! ### The end of the loop -/

/-- A player whose time is below 0 only leaves its loop. -/
theorem playerAfter_of_neg (hphase : (playerAfter m duration turns n).phase = .playing)
    (hneg : (playerAfter m duration turns n).duration < 0) (j : Nat) :
    playerAfter m duration turns (n + j) = playerAfter m duration turns n ∨
      playerAfter m duration turns (n + j) =
        { playerAfter m duration turns n with phase := .finished } := by
  induction j with
  | zero => exact .inl rfl
  | succ j ih =>
    rw [← Nat.add_assoc]
    simp only [playerAfter]
    rcases ih with h | h
    · rw [h]
      simp only [MusicPlayer.turn, hphase, MusicPlayer.iterate, hneg]
      simp
    · rw [h]
      exact .inr rfl

/-- Such a player hands out no more chunks, and does not come to the end of a loop. -/
theorem settled_of_neg (hphase : (playerAfter m duration turns n).phase = .playing)
    (hneg : (playerAfter m duration turns n).duration < 0) (j : Nat) :
    (playerAfter m duration turns (n + j)).chunks = (playerAfter m duration turns n).chunks ∧
      (playerAfter m duration turns (n + j)).phase ≠ .draining := by
  rcases playerAfter_of_neg hphase hneg j with h | h
  · rw [h, hphase]
    exact ⟨rfl, MusicPhase.noConfusion⟩
  · rw [h]
    exact ⟨rfl, MusicPhase.noConfusion⟩

/-- An iteration in the mode of one loop goes on to the next chunk, or leaves at the last. -/
theorem iterate_of_zero {t : MusicTurn} (hstop : t.stopping = false) (hrendered : t.rendered = true)
    (hzero : s.duration = 0) :
    s.iterate m t =
      if m.passOver s.pos then { s.handChunk m with pos := 0, phase := .draining }
      else { s.handChunk m with
        pos := m.nextPos s.pos
        elapsed := s.elapsed + t.elapsed.toNat } := by
  simp [MusicPlayer.iterate, MusicPlayer.spend, hstop, hrendered, hzero]

/-- A player without a remaining time comes to the end of the buffer. -/
theorem drains_of_zero (hturns : Undisturbed turns)
    (hphase : (playerAfter m duration turns n).phase = .playing)
    (hzero : (playerAfter m duration turns n).duration = 0) :
    ∃ k, (playerAfter m duration turns k).phase = .draining := by
  -- the induction is on the rest of the buffer, which every chunk makes shorter
  induction hrest : m.size - (playerAfter m duration turns n).pos using Nat.strongRecOn
    generalizing n with
  | _ rest ih =>
    have hnext : playerAfter m duration turns (n + 1) =
        (playerAfter m duration turns n).iterate m (turns n) := by
      simp only [playerAfter, MusicPlayer.turn, hphase]
    rw [iterate_of_zero (hturns n).1 (hturns n).2 hzero] at hnext
    by_cases hover : m.passOver (playerAfter m duration turns n).pos
    · refine ⟨n + 1, ?_⟩
      rw [hnext, if_pos hover]
    · rw [if_neg hover] at hnext
      have hpos : (playerAfter m duration turns (n + 1)).pos =
          (playerAfter m duration turns n).pos +
            m.sendSize (playerAfter m duration turns n).pos := by
        rw [hnext]
        exact if_neg hover
      simp only [Music.passOver, not_or, not_le] at hover
      refine ih _ ?_ (n := n + 1) ?_ ?_ rfl
      · omega
      · rw [hnext]
        exact (MusicPlayer.handChunk_phase m _).trans hphase
      · rw [hnext]
        exact (MusicPlayer.handChunk_duration m _).trans hzero

/-- The first iterations, as long as time is left, hand out chunks in time. -/
theorem inTime_of_passes (hpass : PassesDuration m duration turns)
    (hs : LoopTimed m duration turns n s) (h : ∀ i < n, ¬ TimeOver duration turns i) :
    ∀ c ∈ s.chunks, (c.before : Int) < duration.toInt := by
  intro c hc
  obtain ⟨i, hi, hsize, hbefore⟩ := hs.chunks c hc
  rw [hbefore]
  by_contra hlate
  exact hsize ((hpass i fun j hj ↦ h j (by omega)).2 (h i hi) (by omega))

/-- At the first iteration that leaves no time, one that passes the duration leaves less. -/
theorem neg_of_passes (hpass : PassesDuration m duration turns)
    (hs : LoopTimed m duration turns n s)
    (h : ∀ i < n, ¬ TimeOver duration turns i) (hover : TimeOver duration turns n) :
    s.duration < 0 := by
  have hne : s.duration ≠ 0 := fun hzero ↦
    (hpass n h).1 ((lateness_eq_zero_iff hs).mpr hzero)
  have hle := (timeOver_iff hs).mp hover
  rw [Int32.lt_iff_toInt_lt, Int32.toInt_zero]
  rw [← Int32.toInt_inj.ne, Int32.toInt_zero] at hne
  omega

/-- After any number of turns the loop still has time, or it found less than none before. -/
theorem loopTimed_or_neg (hturns : Undisturbed turns) (hpass : PassesDuration m duration turns)
    (n : Nat) :
    ∃ k ≤ n, (∀ i < k, ¬ TimeOver duration turns i) ∧
      (k = n ∨ (playerAfter m duration turns k).duration < 0) := by
  by_cases h : ∀ i < n, ¬ TimeOver duration turns i
  · exact ⟨n, le_rfl, h, .inl rfl⟩
  · simp only [not_forall, not_not, exists_prop] at h
    obtain ⟨hk, hover⟩ := Nat.find_spec h
    have hfirst : ∀ i < Nat.find h, ¬ TimeOver duration turns i := by
      intro i hi hi'
      exact Nat.find_min h hi ⟨by omega, hi'⟩
    exact ⟨Nat.find h, Nat.le_of_lt hk, hfirst,
      .inr (neg_of_passes hpass (loopTimed_playerAfter hturns hfirst) hfirst hover)⟩

/-- When the times pass the duration, the chunks are in time and no end of a loop is played. -/
theorem inTime_playerAfter (hturns : Undisturbed turns) (hpass : PassesDuration m duration turns)
    (n : Nat) :
    (∀ c ∈ (playerAfter m duration turns n).chunks, (c.before : Int) < duration.toInt) ∧
      (playerAfter m duration turns n).phase ≠ .draining := by
  obtain ⟨k, hk, hfirst, hcase⟩ := loopTimed_or_neg hturns hpass n
  have hs := loopTimed_playerAfter (m := m) hturns hfirst
  have hchunks := inTime_of_passes hpass hs hfirst
  rcases hcase with rfl | hneg
  · rw [hs.phase]
    exact ⟨hchunks, MusicPhase.noConfusion⟩
  · obtain ⟨j, rfl⟩ := Nat.exists_eq_add_of_le hk
    obtain ⟨hsame, hphase⟩ := settled_of_neg hs.phase hneg j
    rw [hsame]
    exact ⟨hchunks, hphase⟩

/-- Without a positive duration there is one full loop or nothing. -/
theorem draining_iff_of_nonpos (hturns : Undisturbed turns) (h : ¬ 0 < duration) :
    (∃ n, (playerAfter m duration turns n).phase = .draining) ↔ duration = 0 := by
  constructor
  · rintro ⟨n, hn⟩
    by_contra hne
    have hneg : (playerAfter m duration turns 0).duration < 0 := by
      rw [Int32.lt_iff_toInt_lt, Int32.toInt_zero] at h ⊢
      rw [← Int32.toInt_inj, Int32.toInt_zero] at hne
      change duration.toInt < 0
      omega
    have hsettled := (settled_of_neg (n := 0) rfl hneg n).2
    rw [Nat.zero_add] at hsettled
    exact hsettled hn
  · rintro rfl
    exact drains_of_zero (n := 0) hturns rfl rfl

/-- A time that is met, or passed without 32 bits telling it, is not kept. -/
theorem passes_of_playsAsAsked (hturns : Undisturbed turns) (hpos : 0 < duration)
    (h : PlaysAsAsked m duration turns) : PassesDuration m duration turns := by
  intro n hleft
  have hs := loopTimed_playerAfter (m := m) hturns hleft
  constructor
  · intro hmet
    have hdrains := drains_of_zero hturns hs.phase ((lateness_eq_zero_iff hs).mp hmet)
    rw [h.2.mp hdrains] at hpos
    exact absurd hpos (by decide)
  · intro hleft' hlate
    by_contra hsize
    obtain ⟨c, hc, hbefore⟩ := chunk_of_timed hturns hs hleft' hsize
    have hin := h.1 hpos (n + 1) c hc
    rw [hbefore] at hin
    omega

end Turns

/-- The duration is kept exactly when the measured times pass it without meeting it. -/
theorem playsAsAsked_iff {m : Music} {duration : Int32} {turns : Nat → MusicTurn}
    (hturns : Undisturbed turns) :
    PlaysAsAsked m duration turns ↔ (0 < duration → PassesDuration m duration turns) := by
  constructor
  · intro h hpos
    exact passes_of_playsAsAsked hturns hpos h
  · intro h
    by_cases hpos : 0 < duration
    · have hchunks := inTime_playerAfter hturns (h hpos)
      refine ⟨fun _ n ↦ (hchunks n).1, ?_, ?_⟩
      · rintro ⟨n, hn⟩
        exact absurd hn (hchunks n).2
      · rintro rfl
        exact absurd hpos (by decide)
    · exact ⟨fun hpos' ↦ absurd hpos' hpos, draining_iff_of_nonpos hturns hpos⟩

/-- Two frames of 7 bytes. -/
def twoFrames : Music where
  bytes n := if n % 7 = 0 then 0xFF else if n % 7 = 5 then 0xE0 else 0
  size := 14

/-- Every iteration takes the same time. -/
def steadyTurns (elapsed : UInt32) : Nat → MusicTurn := fun _ ↦ ⟨false, true, false, elapsed⟩

/-- Iterations of 30 ms pass a duration of 40 ms, which is kept. -/
theorem playsAsAsked_steady : PlaysAsAsked twoFrames 40 (steadyTurns 30) := by
  refine (playsAsAsked_iff fun _ ↦ ⟨rfl, rfl⟩).mpr fun _ n h ↦ ?_
  match n with
  | 0 => decide
  | 1 => decide
  | 2 => decide
  | n + 3 => exact absurd (by decide) (h 2 (by omega))

/-- Iterations of 20 ms meet a duration of 40 ms, and a third chunk follows. -/
theorem met_duration_plays_on : ¬ PlaysAsAsked twoFrames 40 (steadyTurns 20) := by
  intro h
  exact absurd (h.1 (by decide) 3 ⟨0, 7, 40⟩ (by decide)) (by decide)

end Esp32Robot.Webrtc
