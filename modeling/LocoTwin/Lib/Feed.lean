/-
# Lib.Feed -- a subscription with a bounded queue

A source says one thing after another.  A subscriber has a listener, which may miss what is
said, a queue that drops its oldest item for a new one, and a connection on which the items of
the queue arrive in order, unless it breaks.

* `Reads.of_step`: what has arrived, what is under way and what waits is a subsequence of what
  has been said, whatever is missed, dropped or lost;
* `Exact.of_step`: while nothing is, it is all that has passed, in order.

* `handle_arrived`: an event hands one item on, the next, or none.
* `relayed`: what the listener and the sender do without the connection.

The source may say more between two steps (`Reads.said`, `Exact.said`).
-/
import LocoTwin.Lib.Deque
import LocoTwin.Lib.Transition

namespace LocoTwin.Lib

set_option autoImplicit false

structure Feed (α : Type) (max : Nat) where
  /-- How much of the source has gone by. -/
  passed : Nat
  queue : Deque α max
  /-- On the connection. -/
  sent : List α
  arrived : List α

namespace Feed

variable {α : Type} {max : Nat}

/-- A new subscriber, before whom part of the source has gone by. -/
def startAt (passed : Nat) : Feed α max := ⟨passed, Deque.empty, [], []⟩

def start : Feed α max := startAt 0

inductive Event where
  /-- The next item goes by, heard by the listener or not. -/
  | pass (heard : Bool)
  | send
  | arrive
  /-- The connection breaks; some of what was sent may still arrive. -/
  | broken (left : Nat)
  /-- What has arrived is forgotten. -/
  | forget
  deriving DecidableEq

inductive Step (source : List α) : Feed α max → Event → Feed α max → Prop where
  | heard (f : Feed α max) (x : α) : source[f.passed]? = some x →
      Step source f (.pass true)
        { f with passed := f.passed + 1, queue := (f.queue.append x).1 }
  | missed (f : Feed α max) (x : α) : source[f.passed]? = some x →
      Step source f (.pass false) { f with passed := f.passed + 1 }
  | send (f : Feed α max) (x : α) (queue : Deque α max) : f.queue.getNowait = some (x, queue) →
      Step source f .send { f with queue, sent := f.sent ++ [x] }
  | arrive (f : Feed α max) (x : α) (sent : List α) : f.sent = x :: sent →
      Step source f .arrive { f with sent, arrived := f.arrived ++ [x] }
  | broken (f : Feed α max) (left : Nat) :
      Step source f (.broken left) { f with queue := Deque.empty, sent := f.sent.take left }
  | forget (f : Feed α max) : Step source f .forget { f with arrived := [] }

/-- The subscriber handles what arrives. -/
def handle {σ : Type} (reduce : σ → α → σ) (f : Feed α max) (event : Event) (s : σ) : σ :=
  match event, f.sent with
  | .arrive, x :: _ => reduce s x
  | _, _ => s

/-- What has arrived, what is under way and what waits. -/
def items (f : Feed α max) : List α := f.arrived ++ f.sent ++ f.queue.items

/-- Nothing is missed, dropped or lost by the event. -/
def Undisturbed (f : Feed α max) : Event → Prop
  | .pass heard => heard = true ∧ f.queue.items.length < max
  | .broken _ => False
  | .forget => False
  | _ => True

structure Reads (source : List α) (f : Feed α max) : Prop where
  passed : f.passed ≤ source.length
  items : f.items.Sublist (source.take f.passed)

structure Exact (source : List α) (f : Feed α max) : Prop where
  passed : f.passed ≤ source.length
  items : f.items = source.take f.passed

variable {source : List α} {f f' : Feed α max} {event : Event}

theorem take_passed {x : α} (next : source[f.passed]? = some x) :
    source.take (f.passed + 1) = source.take f.passed ++ [x] := by
  rw [List.take_add_one, next]
  rfl

theorem passed_lt {x : α} (next : source[f.passed]? = some x) : f.passed + 1 ≤ source.length := by
  have ⟨inside, _⟩ := List.getElem?_eq_some_iff.mp next
  exact inside

/-- One more item, of which an old one may be dropped. -/
theorem items_heard (f : Feed α max) (x : α) :
    (items { f with passed := f.passed + 1, queue := (f.queue.append x).1 }).Sublist
      (f.items ++ [x]) := by
  have law := f.queue.append_eq x
  have suffix : (f.queue.append x).1.items.Sublist (f.queue.items ++ [x]) := by
    rw [← law]
    exact List.sublist_append_right _ _
  rw [items, items, List.append_assoc _ _ [x]]
  exact suffix.append_left _

theorem items_send {x : α} {queue : Deque α max} (got : f.queue.getNowait = some (x, queue)) :
    items { f with queue, sent := f.sent ++ [x] } = f.items := by
  simp [items, Deque.getNowait_eq_some got]

theorem items_arrive {x : α} {sent : List α} (first : f.sent = x :: sent) :
    items { f with sent, arrived := f.arrived ++ [x] } = f.items := by
  simp [items, first]

theorem Reads.startAt {n : Nat} (passed : n ≤ source.length) :
    Reads source (startAt n : Feed α max) :=
  ⟨passed, List.nil_sublist _⟩

theorem Reads.start : Reads source (start : Feed α max) := .startAt (Nat.zero_le _)

theorem Reads.of_step (reads : Reads source f) (step : Step source f event f') :
    Reads source f' := by
  cases step with
  | heard x next =>
      refine ⟨passed_lt next, ?_⟩
      rw [take_passed next]
      exact (items_heard f x).trans (reads.items.append (List.Sublist.refl [x]))
  | missed x next =>
      refine ⟨passed_lt next, ?_⟩
      rw [take_passed next]
      exact reads.items.trans (List.sublist_append_left _ _)
  | send x queue got =>
      refine ⟨reads.passed, ?_⟩
      rw [items_send got]
      exact reads.items
  | arrive x sent first =>
      refine ⟨reads.passed, ?_⟩
      rw [items_arrive first]
      exact reads.items
  | broken left =>
      refine ⟨reads.passed, List.Sublist.trans ?_ reads.items⟩
      show (f.arrived ++ f.sent.take left ++ []).Sublist (f.arrived ++ f.sent ++ f.queue.items)
      exact ((List.take_sublist left f.sent).append_left _).append (List.nil_sublist _)
  | forget =>
      refine ⟨reads.passed, List.Sublist.trans ?_ reads.items⟩
      show ([] ++ f.sent ++ f.queue.items).Sublist (f.arrived ++ f.sent ++ f.queue.items)
      exact ((List.nil_sublist _).append (List.Sublist.refl _)).append (List.Sublist.refl _)

theorem Reads.said (reads : Reads source f) (more : List α) : Reads (source ++ more) f := by
  refine ⟨?_, ?_⟩
  · rw [List.length_append]
    exact Nat.le_add_right_of_le reads.passed
  · rw [List.take_append_of_le_length reads.passed]
    exact reads.items

theorem Reads.arrived (reads : Reads source f) : f.arrived.Sublist source := by
  have first : f.arrived.Sublist f.items := by
    rw [Feed.items, List.append_assoc]
    exact List.sublist_append_left _ _
  exact (first.trans reads.items).trans (List.take_sublist _ _)

theorem Exact.start : Exact source (start : Feed α max) := ⟨Nat.zero_le _, rfl⟩

theorem Exact.of_step (exact' : Exact source f) (step : Step source f event f')
    (undisturbed : Undisturbed f event) : Exact source f' := by
  cases step with
  | heard x next =>
      have fits : (f.queue.items ++ [x]).length ≤ max := by
        rw [List.length_append]
        exact undisturbed.2
      have kept : (f.queue.append x).1.items = f.queue.items ++ [x] := by
        rw [Deque.append, dif_pos fits]
      refine ⟨passed_lt next, ?_⟩
      rw [take_passed next, ← exact'.items]
      simp [Feed.items, kept]
  | missed x next => exact absurd undisturbed.1 Bool.false_ne_true
  | send x queue got => exact ⟨exact'.passed, (items_send got).trans exact'.items⟩
  | arrive x sent first => exact ⟨exact'.passed, (items_arrive first).trans exact'.items⟩
  | broken left => exact undisturbed.elim
  | forget => exact undisturbed.elim

theorem Exact.said (exact' : Exact source f) (more : List α) : Exact (source ++ more) f := by
  refine ⟨?_, ?_⟩
  · rw [List.length_append]
    exact Nat.le_add_right_of_le exact'.passed
  · rw [List.take_append_of_le_length exact'.passed]
    exact exact'.items

theorem Step.said (step : Step source f event f') (more : List α) :
    Step (source ++ more) f event f' := by
  have later {x : α} (next : source[f.passed]? = some x) :
      (source ++ more)[f.passed]? = some x := by
    rw [List.getElem?_append_left (passed_lt next)]
    exact next
  cases step with
  | heard x next => exact .heard f x (later next)
  | missed x next => exact .missed f x (later next)
  | send x queue got => exact .send f x queue got
  | arrive x sent first => exact .arrive f x sent first
  | broken left => exact .broken f left
  | forget => exact .forget f

/-! ## Without the connection -/

/-- The listener and the sender of a subscriber that comes at some point of the source. -/
def relayed (source : List α) : System (Feed α max) Event where
  init f := ∃ n, n ≤ source.length ∧ f = startAt n
  step f event f' := (event = .send ∨ ∃ heard, event = .pass heard) ∧ Step source f event f'

theorem relayed_said (reach : (relayed source).Reachable f) (more : List α) :
    (relayed (source ++ more)).Reachable f := by
  induction reach with
  | init start =>
      obtain ⟨n, passed, rfl⟩ := start
      refine .init ⟨n, ?_, rfl⟩
      rw [List.length_append]
      exact Nat.le_add_right_of_le passed
  | step _ step ih => exact ih.step ⟨step.1, step.2.said more⟩

/-- One more thing is said, and goes by. -/
theorem relayed_pass (reach : (relayed source).Reachable f) (all : f.passed = source.length)
    (x : α) :
    (relayed (source ++ [x])).Reachable { f with passed := f.passed + 1 } ∧
      (relayed (source ++ [x])).Reachable
        { f with passed := f.passed + 1, queue := (f.queue.append x).1 } := by
  have next : (source ++ [x])[f.passed]? = some x := by
    rw [all, List.getElem?_concat_length]
  have before := relayed_said reach [x]
  exact ⟨before.step ⟨.inr ⟨false, rfl⟩, .missed f x next⟩,
    before.step ⟨.inr ⟨true, rfl⟩, .heard f x next⟩⟩

/-! ## What is handled -/

theorem handle_arrived {σ : Type} (reduce : σ → α → σ) (s : σ) (step : Step source f event f')
    (kept : event ≠ .forget) :
    (f'.arrived = f.arrived ∧ handle reduce f event s = s) ∨
      ∃ x, f'.arrived = f.arrived ++ [x] ∧ handle reduce f event s = reduce s x := by
  cases step with
  | heard x next => exact .inl ⟨rfl, rfl⟩
  | missed x next => exact .inl ⟨rfl, rfl⟩
  | send x queue got => exact .inl ⟨rfl, rfl⟩
  | arrive x sent first => exact .inr ⟨x, rfl, by simp only [handle, first]⟩
  | broken left => exact .inl ⟨rfl, rfl⟩
  | forget => exact absurd rfl kept

/-- Nothing is left to pass, to send or to arrive. -/
structure CaughtUp (source : List α) (f : Feed α max) : Prop where
  passed : f.passed = source.length
  queue : f.queue.items = []
  sent : f.sent = []

theorem Exact.caughtUp (exact' : Exact source f) (caughtUp : CaughtUp source f) :
    f.arrived = source := by
  have all := exact'.items
  rw [caughtUp.passed, List.take_length] at all
  rw [← all]
  simp [Feed.items, caughtUp.queue, caughtUp.sent]

end Feed

end LocoTwin.Lib
