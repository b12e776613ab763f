/-!
# Bounded queues with one consumer

A queue of limited length that any number of senders fill and one consumer
empties: it takes the oldest element out, works on it, and is done with it with
or without success. The queue keeps the history of what was accepted, refused
and handled, so that orders and losses can be stated.
-/

namespace Esp32Robot.Base

universe u

variable {α : Type u}

/-- What the consumer does: take an element, or be done with it. -/
inductive ConsumerTurn where
  | receive
  | finish (ok : Bool)
  deriving DecidableEq, Repr

/-- A queue, the element its consumer works on, and its history, oldest first. -/
structure Fifo (α : Type u) where
  waiting : List α
  held : Option α
  accepted : List α
  rejected : List α
  handled : List (α × Bool)
  deriving DecidableEq, Repr

namespace Fifo

/-- A new queue. -/
def empty : Fifo α := ⟨[], none, [], [], []⟩

/-- Put an element at the end if there is room, else refuse it. -/
def send (capacity : Nat) (x : α) (q : Fifo α) : Fifo α :=
  if q.waiting.length < capacity then
    { q with waiting := q.waiting ++ [x], accepted := q.accepted ++ [x] }
  else { q with rejected := q.rejected ++ [x] }

/-- The consumer takes the oldest element, when it works on none. -/
def receive (q : Fifo α) : Option (Fifo α) :=
  match q.held, q.waiting with
  | none, x :: rest => some { q with waiting := rest, held := some x }
  | _, _ => none

/-- The consumer is done with its element. -/
def finish (ok : Bool) (q : Fifo α) : Option (Fifo α) :=
  q.held.map (fun x ↦ { q with held := none, handled := q.handled ++ [(x, ok)] })

/-- The turns of the consumer, without those that are not its turn. -/
def turns (ts : List ConsumerTurn) (q : Fifo α) : Fifo α :=
  ts.foldl (fun q t ↦ match t with
    | .receive => q.receive.getD q
    | .finish ok => (q.finish ok).getD q) q

/-- The elements handled with success. -/
def done (q : Fifo α) : List α := (q.handled.filter Prod.snd).map Prod.fst

/-- Nothing is left to handle. -/
def Drained (q : Fifo α) : Prop := q.waiting = [] ∧ q.held = none

/-- Steps that the consumer needs to drain the queue. -/
def left (q : Fifo α) : Nat := 2 * q.waiting.length + q.held.toList.length

/-- What was accepted was handled, is held or waits, in this order. -/
def InOrder (q : Fifo α) : Prop :=
  q.accepted = q.handled.map Prod.fst ++ q.held.toList ++ q.waiting

/-- A new queue is in order. -/
theorem inOrder_empty : InOrder (empty : Fifo α) := rfl

/-- Sending keeps the order. -/
theorem InOrder.send {q : Fifo α} (h : q.InOrder) (capacity : Nat) (x : α) :
    (q.send capacity x).InOrder := by
  unfold Fifo.send
  split
  · rw [InOrder, h, List.append_assoc _ q.waiting]
  · exact h

/-- A receiving consumer had no element, and takes the oldest one. -/
theorem receive_some {q t : Fifo α} :
    q.receive = some t ↔ ∃ x rest, q.held = none ∧ q.waiting = x :: rest ∧
      t = { q with waiting := rest, held := some x } := by
  unfold receive
  split
  · next x rest hheld hwaiting =>
    rw [Option.some.injEq]
    constructor
    · rintro rfl
      exact ⟨x, rest, hheld, hwaiting, rfl⟩
    · rintro ⟨y, rest', _, hwaiting', rfl⟩
      rw [hwaiting] at hwaiting'
      cases hwaiting'
      rfl
  · next hno =>
    simp only [reduceCtorEq, false_iff, not_exists, not_and]
    intro x rest hheld hwaiting
    exact absurd hwaiting (hno x rest hheld)

/-- Receiving keeps the order. -/
theorem InOrder.receive {q t : Fifo α} (h : q.InOrder) (ht : q.receive = some t) :
    t.InOrder := by
  obtain ⟨x, rest, hheld, hwaiting, rfl⟩ := receive_some.mp ht
  simpa [InOrder, hheld, hwaiting] using h

/-- The consumer's turns accept nothing. -/
theorem accepted_turns (ts : List ConsumerTurn) (q : Fifo α) :
    (q.turns ts).accepted = q.accepted := by
  induction ts generalizing q with
  | nil => rfl
  | cons t ts ih =>
    apply (ih _).trans
    cases t with
    | receive =>
      cases hreceive : q.receive with
      | none => simp [hreceive]
      | some r =>
        obtain ⟨x, rest, _, _, rfl⟩ := receive_some.mp hreceive
        simp [hreceive]
    | finish ok =>
      cases hheld : q.held with
      | none => simp [finish, hheld]
      | some x => simp [finish, hheld]

/-- Finishing keeps the order. -/
theorem InOrder.finish {q t : Fifo α} (h : q.InOrder) {ok : Bool} (ht : q.finish ok = some t) :
    t.InOrder := by
  obtain ⟨x, hheld, rfl⟩ := Option.map_eq_some_iff.mp ht
  simpa [InOrder, hheld] using h

/-- What was handled with success was accepted, in the same order. -/
theorem InOrder.done_sublist {q : Fifo α} (h : q.InOrder) : q.done.Sublist q.accepted := by
  rw [h, List.append_assoc]
  exact (List.filter_sublist.map Prod.fst).trans (List.sublist_append_left _ _)

/-- In a drained queue every accepted element was handled. -/
theorem InOrder.of_drained {q : Fifo α} (h : q.InOrder) (hd : q.Drained) {x : α}
    (hx : x ∈ q.accepted) : x ∈ q.done ∨ (x, false) ∈ q.handled := by
  obtain ⟨hwaiting, hheld⟩ := hd
  rw [h, hwaiting, hheld, Option.toList_none, List.append_nil, List.append_nil] at hx
  obtain ⟨⟨y, ok⟩, hy, rfl⟩ := List.mem_map.mp hx
  cases ok with
  | false => exact .inr hy
  | true => exact .inl (List.mem_map.mpr ⟨_, List.mem_filter.mpr ⟨hy, rfl⟩, rfl⟩)

/-- The consumer of a queue that is not drained has a step, and each of its steps leaves less
to do. -/
theorem progress {q : Fifo α} (h : ¬ q.Drained) :
    (∃ t, q.receive = some t ∧ t.left < q.left) ∨
      ∀ ok, ∃ t, q.finish ok = some t ∧ t.left < q.left := by
  cases hheld : q.held with
  | some x =>
    refine .inr fun ok ↦ ⟨_, by rw [finish, hheld]; rfl, ?_⟩
    simp [left, hheld]
  | none =>
    cases hwaiting : q.waiting with
    | nil => exact absurd ⟨hwaiting, hheld⟩ h
    | cons x rest =>
      refine .inl ⟨_, receive_some.mpr ⟨x, rest, hheld, hwaiting, rfl⟩, ?_⟩
      simp [left, hheld, hwaiting]
      omega

end Fifo

end Esp32Robot.Base
