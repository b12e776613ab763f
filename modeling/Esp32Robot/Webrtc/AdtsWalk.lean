import Esp32Robot.Base.Walk
import Esp32Robot.Webrtc.MusicPlayer

/-!
# The walk over the ADTS frames

How the music player of `IDF_esp32p4_webrtc/main/media_sys.c` goes through its buffer.
The size of a chunk is cut to what is left of the buffer, the reads of the header that
gives the size are not.
-/

namespace Esp32Robot.Webrtc

open Esp32Robot.Base

namespace Music

/-- The bytes of the header that are read at a position, `media_sys.c:314–319`. -/
def headerReads (m : Music) (pos : Nat) : List Nat :=
  if m.bytes pos ≠ 0xFF then [pos] else [pos, pos + 3, pos + 4, pos + 5]

/-- One pass over the buffer. -/
def pass (m : Music) : List (Nat × Nat) := walkFrom m.sendSize m.size 0

/-- The length of the frame at a position, or what is left of the buffer. -/
def chunkLength (m : Music) (pos : Nat) : Nat := min (m.frameSize pos) (m.size - pos)

/-- A buffer of these bytes. -/
def ofBytes (data : List UInt8) : Music := ⟨fun i ↦ data.getD i 0, data.length⟩

/-- The positions of the headers: the start of the buffer, and where the length of a header that
starts with `0xFF` leads inside the buffer. -/
inductive HeaderAt (m : Music) : Nat → Prop where
  | start : HeaderAt m 0
  | next {pos : Nat} (h : HeaderAt m pos) (sync : m.bytes pos = 0xFF) (pos_of : 0 < m.frameSize pos)
    (inside : pos + m.frameSize pos < m.size) : HeaderAt m (pos + m.frameSize pos)

/-- Every header that starts with `0xFF` has the bytes that are read of it in the buffer. -/
def HeadersFit (m : Music) : Prop :=
  ∀ pos, m.HeaderAt pos → m.bytes pos = 0xFF → pos + 6 ≤ m.size

end Music

/-- An ADTS frame: `0xFF` first, and a length field that tells its size. -/
structure AdtsFrame (f : List UInt8) : Prop where
  sync : f[0]? = some 0xFF
  header : 7 ≤ f.length
  length : (Music.ofBytes f).frameSize 0 = f.length

namespace MusicPlayer

/-- The bytes of the buffer that the next turn of the thread reads. -/
def reads (m : Music) (t : MusicTurn) (s : MusicPlayer) : List Nat :=
  if s.phase ≠ .playing ∨ t.stopping = true ∨ s.duration < 0 then [] else m.headerReads s.pos

/-- The chunks that the renderer was called with, by position and length. -/
def spans (s : MusicPlayer) : List (Nat × Nat) := s.chunks.map (fun c ↦ (c.pos, c.size))

end MusicPlayer

/-- The player reads inside the buffer only; what it sends is one pass after the other, of which
the last may be cut short; a pass is consecutive chunks from the start of the buffer, of the length
of the frame or what is left; and on a buffer of ADTS frames it is these frames. -/
structure StaysInside (m : Music) : Prop where
  reads : ∀ duration turns n, ∀ i ∈ (playerAfter m duration turns n).reads m (turns n), i < m.size
  rounds : ∀ duration turns n, ∃ rest, Rounds m.pass (playerAfter m duration turns n).spans rest
  consecutive : Consecutive m.chunkLength 0 m.pass
  apart : m.pass.Pairwise (fun p q ↦ p.1 + p.2 ≤ q.1)
  inside : ∀ p ∈ m.pass, p.1 + p.2 ≤ m.size
  frames : ∀ frames : List (List UInt8), (∀ f ∈ frames, AdtsFrame f) →
    Holds m.bytes 0 frames.flatten → m.size = frames.flatten.length →
    m.pass.map (slice m.bytes) = frames

namespace Music

variable {m : Music} {pos : Nat}

/-! ### One pass -/

/-- A chunk that is sent has the length of its frame, or goes to the end of the buffer. -/
theorem sendSize_eq (h : m.sendSize pos ≠ 0) :
    m.bytes pos = 0xFF ∧ m.sendSize pos = m.chunkLength pos := by
  unfold sendSize at h ⊢
  unfold chunkLength
  by_cases hsync : m.bytes pos = 0xFF
  · refine ⟨hsync, ?_⟩
    rw [if_neg (not_not.mpr hsync)]
    split <;> omega
  · rw [if_pos hsync] at h
    exact absurd rfl h

/-- No chunk goes over the end of the buffer. -/
theorem bounded_sendSize (m : Music) : Bounded m.sendSize m.size := by
  intro pos h
  have hsize := (sendSize_eq h).2
  unfold chunkLength at hsize
  omega

/-- The chunks of a pass are consecutive. -/
theorem consecutive_pass (m : Music) : Consecutive m.chunkLength 0 m.pass := by
  apply consecutive_walk
  intro pos h
  exact (sendSize_eq h).2.symm

/-- The chunks of a pass lie in the buffer. -/
theorem pass_inside (m : Music) : ∀ p ∈ m.pass, p.1 + p.2 ≤ m.size := by
  intro p hp
  obtain ⟨hsize, hpos⟩ := (consecutive_pass m).mem p hp
  unfold chunkLength at hsize
  omega

/-- The header of a frame in the buffer. -/
theorem frameSize_of_frame {f : List UInt8} (hf : AdtsFrame f) (hholds : Holds m.bytes pos f) :
    m.bytes pos = 0xFF ∧ m.frameSize pos = f.length := by
  have hheader := hf.header
  have hbyte (i : Nat) (hi : i < f.length) : f.getD i 0 = m.bytes (pos + i) := by
    rw [List.getD_eq_getElem?_getD, hholds.getElem? hi, Option.getD_some]
  constructor
  · have h := hf.sync
    rw [hholds.getElem? (by omega)] at h
    exact Option.some.inj h
  · rw [← hf.length]
    simp only [frameSize, ofBytes, Nat.zero_add]
    rw [hbyte 3 (by omega), hbyte 4 (by omega), hbyte 5 (by omega)]

/-- A frame in the buffer is sent as it is. -/
theorem sendSize_of_frame {f : List UInt8} (hf : AdtsFrame f) (hholds : Holds m.bytes pos f)
    (hfit : pos + f.length ≤ m.size) : m.sendSize pos = f.length := by
  obtain ⟨hsync, hframe⟩ := frameSize_of_frame hf hholds
  unfold sendSize
  rw [if_neg (not_not.mpr hsync)]
  split <;> omega

/-- On a buffer of ADTS frames a pass is these frames. -/
theorem pass_frames {frames : List (List UInt8)} (hframes : ∀ f ∈ frames, AdtsFrame f)
    (hholds : Holds m.bytes 0 frames.flatten) (hsize : m.size = frames.flatten.length) :
    m.pass.map (slice m.bytes) = frames := by
  apply walkFrom_frames (bounded_sendSize m) hholds (by omega)
  intro f hf
  have hheader := (hframes f hf).header
  refine ⟨?_, fun p ↦ sendSize_of_frame (hframes f hf)⟩
  rintro rfl
  exact absurd hheader (by decide)

/-- The chunk at the position of a header leads to the next header, or the pass is over. -/
theorem HeaderAt.nextPos (h : m.HeaderAt pos) : m.HeaderAt (m.nextPos pos) := by
  unfold Music.nextPos
  split
  · exact .start
  · next hover =>
    simp only [passOver, not_or, not_le] at hover
    obtain ⟨hsync, hsize⟩ := sendSize_eq hover.2
    have hframe : m.sendSize pos = m.frameSize pos := by
      unfold chunkLength at hsize
      omega
    rw [hframe] at hover ⊢
    exact .next h hsync (Nat.pos_of_ne_zero hover.2) hover.1

/-- A header lies in a buffer that is not empty. -/
theorem HeaderAt.lt (h : m.HeaderAt pos) (hsize : 0 < m.size) : pos < m.size := by
  cases h with
  | start => exact hsize
  | next _ _ _ inside => exact inside

/-- The reads of a header stay in the buffer when it fits. -/
theorem headerReads_lt (hfit : m.HeadersFit) (h : m.HeaderAt pos) (hsize : 0 < m.size) :
    ∀ i ∈ m.headerReads pos, i < m.size := by
  have hpos := h.lt hsize
  unfold headerReads
  split
  · simp [hpos]
  · next hsync =>
    have := hfit pos h (not_not.mp hsync)
    simp only [List.mem_cons, List.not_mem_nil, or_false]
    omega

end Music

/-! ### The player on its walk -/

/-- In the loop the player is at a header, and what it sent goes on with the walk from there. -/
structure OnWalk (m : Music) (s : MusicPlayer) : Prop where
  header : s.phase = .playing → m.HeaderAt s.pos
  playing : s.phase = .playing → Rounds m.pass s.spans (walkFrom m.sendSize m.size s.pos)
  rounds : ∃ rest, Rounds m.pass s.spans rest

section Player

variable {m : Music} {s : MusicPlayer} {duration : Int32} {turns : Nat → MusicTurn}

/-- The thread enters its loop at the start of the buffer. -/
theorem onWalk_playMusic : OnWalk m (playMusic duration) where
  header _ := .start
  playing _ := rounds_nil m.pass
  rounds := ⟨m.pass, rounds_nil m.pass⟩

/-- The next chunk of the pass is sent. -/
theorem rounds_handChunk {pos : Nat} (hpos : s.pos = pos)
    (h : Rounds m.pass s.spans (walkFrom m.sendSize m.size pos)) :
    Rounds m.pass (s.handChunk m).spans (walkFrom m.sendSize m.size (pos + m.sendSize pos)) := by
  subst hpos
  unfold MusicPlayer.handChunk
  split
  · next hsize =>
    rw [hsize, Nat.add_zero]
    exact h
  · next hsize =>
    rw [walkFrom_eq m.bounded_sendSize, if_neg hsize] at h
    have hnext := h.next
    simpa only [MusicPlayer.spans, List.map_append, List.map_cons, List.map_nil] using hnext

/-- Behind the last chunk of a pass the next one starts. -/
theorem rounds_nextPos {log : List (Nat × Nat)} {pos : Nat}
    (h : Rounds m.pass log (walkFrom m.sendSize m.size (pos + m.sendSize pos))) :
    Rounds m.pass log (walkFrom m.sendSize m.size (m.nextPos pos)) := by
  unfold Music.nextPos
  split
  · next hover =>
    have hend : walkFrom m.sendSize m.size (pos + m.sendSize pos) = [] := by
      rcases hover with hover | hover
      · exact walkFrom_end m.bounded_sendSize hover
      · rw [walkFrom_eq m.bounded_sendSize, hover, Nat.add_zero, if_pos hover]
    rw [hend] at h
    exact h.again
  · exact h

/-- A thread that has left its loop sends nothing more. -/
theorem OnWalk.left (h : OnWalk m s) {t : MusicPlayer} (hspans : t.spans = s.spans)
    (hphase : t.phase ≠ .playing) : OnWalk m t where
  header hp := absurd hp hphase
  playing hp := absurd hp hphase
  rounds := by
    rw [hspans]
    exact h.rounds

/-- One iteration of the loop. -/
theorem onWalk_iterate (h : OnWalk m s) (hphase : s.phase = .playing) (t : MusicTurn) :
    OnWalk m (s.iterate m t) := by
  have hhand := rounds_handChunk rfl (h.playing hphase)
  have hsent (u : MusicPlayer) (hspans : u.spans = (s.handChunk m).spans)
      (hleft : u.phase ≠ .playing) : OnWalk m u := by
    refine ⟨fun hp ↦ absurd hp hleft, fun hp ↦ absurd hp hleft, ?_⟩
    rw [hspans]
    exact ⟨_, hhand⟩
  unfold MusicPlayer.iterate
  split
  · exact h.left rfl MusicPhase.noConfusion
  split
  · exact hsent _ rfl MusicPhase.noConfusion
  split
  · exact hsent _ rfl MusicPhase.noConfusion
  · have hnext := rounds_nextPos hhand
    exact ⟨fun _ ↦ (h.header hphase).nextPos, fun _ ↦ hnext, ⟨_, hnext⟩⟩

/-- One turn. -/
theorem onWalk_turn (h : OnWalk m s) (t : MusicTurn) : OnWalk m (s.turn m t) := by
  unfold MusicPlayer.turn
  split
  · next hphase => exact onWalk_iterate h hphase t
  · next hphase =>
    unfold MusicPlayer.drain
    split
    · exact h.left rfl MusicPhase.noConfusion
    · exact h
  · exact h

/-- Any number of turns. -/
theorem onWalk_playerAfter (n : Nat) : OnWalk m (playerAfter m duration turns n) := by
  induction n with
  | zero => exact onWalk_playMusic
  | succ n ih => exact onWalk_turn ih (turns n)

/-- A turn reads inside the buffer when the headers fit. -/
theorem OnWalk.reads_lt (h : OnWalk m s) (hsize : 0 < m.size) (hfit : m.HeadersFit)
    (t : MusicTurn) : ∀ i ∈ s.reads m t, i < m.size := by
  unfold MusicPlayer.reads
  split
  · exact List.forall_mem_nil _
  · next hloop =>
    simp only [ne_eq, not_or, not_not] at hloop
    exact Music.headerReads_lt hfit (h.header hloop.1) hsize

/-- A player that plays one full loop undisturbed comes to every header. -/
theorem visits_of_headerAt (hturns : Undisturbed turns) {pos : Nat} (h : m.HeaderAt pos) :
    ∃ n, (playerAfter m 0 turns n).phase = .playing ∧ (playerAfter m 0 turns n).duration = 0 ∧
      (playerAfter m 0 turns n).pos = pos := by
  induction h with
  | start => exact ⟨0, rfl, rfl, rfl⟩
  | next _ sync pos_of inside ih =>
    obtain ⟨n, hphase, hzero, rfl⟩ := ih
    have hsend : m.sendSize (playerAfter m 0 turns n).pos =
        m.frameSize (playerAfter m 0 turns n).pos := by
      unfold Music.sendSize
      rw [if_neg (not_not.mpr sync), if_pos (by omega)]
    have hover : ¬ m.passOver (playerAfter m 0 turns n).pos := by
      unfold Music.passOver
      rw [hsend]
      omega
    have hnext : playerAfter m 0 turns (n + 1) =
        (playerAfter m 0 turns n).iterate m (turns n) := by
      simp only [playerAfter, MusicPlayer.turn, hphase]
    rw [iterate_of_zero (hturns n).1 (hturns n).2 hzero, if_neg hover] at hnext
    refine ⟨n + 1, ?_, ?_, ?_⟩
    · rw [hnext]
      exact (MusicPlayer.handChunk_phase m _).trans hphase
    · rw [hnext]
      exact (MusicPlayer.handChunk_duration m _).trans hzero
    · rw [hnext, ← hsend]
      exact if_neg hover

/-- Where the reads stay in the buffer the headers fit. -/
theorem headersFit_of_reads (h : ∀ duration turns n, ∀ i ∈
    (playerAfter m duration turns n).reads m (turns n), i < m.size) : m.HeadersFit := by
  intro pos hheader hsync
  have hturns : Undisturbed (steadyTurns 0) := fun _ ↦ ⟨rfl, rfl⟩
  obtain ⟨n, hphase, hzero, rfl⟩ := visits_of_headerAt hturns hheader
  have hread := h 0 (steadyTurns 0) n ((playerAfter m 0 (steadyTurns 0) n).pos + 5) (by
    unfold MusicPlayer.reads Music.headerReads
    rw [if_neg (by simp [hphase, hzero, steadyTurns]), if_neg (not_not.mpr hsync)]
    simp)
  omega

end Player

/-- The player stays inside a buffer exactly when the headers in it that it comes to fit. -/
theorem staysInside_iff {m : Music} (hsize : 0 < m.size) : StaysInside m ↔ m.HeadersFit := by
  constructor
  · intro h
    exact headersFit_of_reads h.reads
  · intro hfit
    constructor
    · intro duration turns n
      exact (onWalk_playerAfter n).reads_lt hsize hfit (turns n)
    · intro duration turns n
      exact (onWalk_playerAfter n).rounds
    · exact m.consecutive_pass
    · exact m.consecutive_pass.apart
    · exact m.pass_inside
    · intro frames hframes hholds
      exact Music.pass_frames hframes hholds

/-- The two frames of 7 bytes are played inside their buffer. -/
theorem staysInside_twoFrames : StaysInside twoFrames := by
  refine (staysInside_iff (by decide)).mpr ?_
  have hheader {pos : Nat} (h : twoFrames.HeaderAt pos) : pos = 0 ∨ pos = 7 := by
    induction h with
    | start => exact .inl rfl
    | next _ _ _ inside ih =>
      rcases ih with rfl | rfl
      · exact .inr rfl
      · exact absurd inside (by decide)
  intro pos hpos _
  rcases hheader hpos with rfl | rfl <;> decide

/-- A buffer that ends behind the first byte of a header. -/
def cutHeader : Music := ⟨fun _ ↦ 0xFF, 1⟩

/-- The rest of that header is read behind the buffer. -/
theorem header_read_behind_buffer : ¬ ∀ m : Music, 0 < m.size → StaysInside m := by
  intro h
  have hfit := headersFit_of_reads (h cutHeader (by decide)).reads
  exact absurd (hfit 0 .start rfl) (by decide)

end Esp32Robot.Webrtc
