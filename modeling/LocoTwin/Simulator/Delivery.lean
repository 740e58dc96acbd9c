/-
# Simulator.Delivery -- what becomes of the readings of a tick

A tick posts its readings in concurrent batches and appends the batches that failed to a
bounded buffer; then it flushes up to three batches from the front of the buffer, one at a
time.  `gather` turns the exceptions of the concurrent posts into results.  `_flush_buffer`
awaits a post while the batch it has popped is nowhere else.

The state stands at the await of a tick (`Point`), and a `Ledger` beside it records what
became of each reading; the code keeps no such record.

* `accounted_iff`: in every run, between two ticks, every reading is sent, buffered or
  evicted exactly when no tick had a batch size that is not positive and no post of
  `_flush_buffer` raised;
* `ledger_run`: the readings sent are those of the posts of the run that returned, and those
  generated are those of its ticks;
* `flush_loses`: the post of a buffered reading raises, and the reading is gone.
-/
import LocoTwin.Lib.Deque
import LocoTwin.Lib.Transition
import Mathlib.Data.List.Perm.Basic

namespace LocoTwin.Simulator

open LocoTwin.Lib

set_option autoImplicit false

/-- `BUFFER_MAX` -/
def bufferMax : Nat := 10000

/-- What `await post_batch(batch)` brings. -/
inductive Outcome where
  /-- The decoded answer. -/
  | returned
  /-- `None`: the retries are exhausted, or the processor refused the batch. -/
  | none
  /-- A body that is no JSON, or a cancellation. -/
  | raised
  deriving DecidableEq, Repr

/-- What became of the readings. -/
structure Ledger (α : Type) where
  generated : List α
  /-- In a batch whose post returned. -/
  sent : List α
  evicted : List α
  /-- In no batch, or in a batch whose flush raised. -/
  lost : List α
  /-- What was appended to the buffer, in order. -/
  put : List α

/-- The await a tick is at. -/
inductive Point (α : Type) where
  | idle
  | gathering (batchSize : Int) (batches : List (List α))
  /-- `left`: the attempts after this one. -/
  | flushing (batchSize : Int) (left : Nat) (batch : List α)

structure Delivery (α : Type) where
  buffer : Deque α bufferMax
  eventsSent : Nat
  errors : Nat
  point : Point α
  ledger : Ledger α

namespace Delivery

variable {α : Type}

/-- `readings[i : i + batch_size] for i in range(0, len(readings), batch_size)`, which has
no slice for a negative size. -/
def batches (batchSize : Int) (readings : List α) : List (List α) :=
  if 0 < batchSize then slices batchSize.toNat readings else []

/-- The batch counts as sent. -/
def send (d : Delivery α) (batch : List α) : Delivery α :=
  { d with
    eventsSent := d.eventsSent + batch.length
    ledger := { d.ledger with sent := d.ledger.sent ++ batch } }

/-- The batch is appended to the buffer. -/
def keep (d : Delivery α) (batch : List α) : Delivery α :=
  { d with
    errors := d.errors + 1
    buffer := (d.buffer.extend batch).1
    ledger := { d.ledger with
      evicted := d.ledger.evicted ++ (d.buffer.extend batch).2
      put := d.ledger.put ++ batch } }

/-- The loop over the results of `gather`. -/
def settle (d : Delivery α) : List (List α × Outcome) → Delivery α
  | [] => d
  | (batch, .returned) :: results => (d.send batch).settle results
  | (batch, _) :: results => (d.keep batch).settle results

/-- The loop of `_flush_buffer` up to its next await. -/
def attempt (batchSize : Int) (d : Delivery α) : Nat → Delivery α
  | 0 => { d with point := .idle }
  | left + 1 =>
      if d.buffer.items = [] then { d with point := .idle }
      else
        let popped := d.buffer.popLeft (min batchSize d.buffer.items.length).toNat
        { d with buffer := popped.2, point := .flushing batchSize left popped.1 }

/-- `min(3, len(self.buffer) // batch_size + 1)` -/
def retries (batchSize : Int) (d : Delivery α) : Nat :=
  (min 3 (Int.fdiv d.buffer.items.length batchSize + 1)).toNat

def startFlush (batchSize : Int) (d : Delivery α) : Delivery α :=
  if d.buffer.items = [] then { d with point := .idle }
  else d.attempt batchSize (d.retries batchSize)

/-- The popped batch goes back to the front, and the loop ends. -/
def restore (d : Delivery α) (batch : List α) : Delivery α :=
  let back := d.buffer.extendLeft batch.reverse
  { d with
    buffer := back.1
    point := .idle
    ledger := { d.ledger with evicted := d.ledger.evicted ++ back.2 } }

/-- Readings are generated; those in no batch are lost. -/
def generate (d : Delivery α) (readings : List α) (batchSize : Int) : Delivery α :=
  { d with
    ledger := { d.ledger with
      generated := d.ledger.generated ++ readings
      lost := d.ledger.lost ++ if 0 < batchSize then [] else readings } }

def lose (d : Delivery α) (batch : List α) : Delivery α :=
  { d with point := .idle, ledger := { d.ledger with lost := d.ledger.lost ++ batch } }

end Delivery

inductive DeliveryEvent (α : Type) where
  | tick (readings : List α) (batchSize : Int)
  | gathered (results : List Outcome)
  | flushed (outcome : Outcome)

inductive DeliveryStep {α : Type} : Delivery α → DeliveryEvent α → Delivery α → Prop where
  /-- The fleet is empty. -/
  | empty (d : Delivery α) (batchSize : Int) : d.point = .idle →
      DeliveryStep d (.tick [] batchSize) d
  | tick (d : Delivery α) (readings : List α) (batchSize : Int) : d.point = .idle →
      readings ≠ [] → batchSize ≠ 0 →
      DeliveryStep d (.tick readings batchSize)
        { d.generate readings batchSize with
          point := .gathering batchSize (Delivery.batches batchSize readings) }
  /-- `ValueError: range() arg 3 must not be zero` -/
  | tickRaised (d : Delivery α) (readings : List α) : d.point = .idle → readings ≠ [] →
      DeliveryStep d (.tick readings 0) (d.generate readings 0)
  | gathered (d : Delivery α) (batchSize : Int) (batches : List (List α))
      (results : List Outcome) : d.point = .gathering batchSize batches →
      results.length = batches.length →
      DeliveryStep d (.gathered results)
        ((d.settle (batches.zip results)).startFlush batchSize)
  | flushReturned (d : Delivery α) (batchSize : Int) (left : Nat) (batch : List α) :
      d.point = .flushing batchSize left batch →
      DeliveryStep d (.flushed .returned) ((d.send batch).attempt batchSize left)
  | flushNone (d : Delivery α) (batchSize : Int) (left : Nat) (batch : List α) :
      d.point = .flushing batchSize left batch →
      DeliveryStep d (.flushed .none) (d.restore batch)
  /-- Nothing catches the exception: it ends the tick. -/
  | flushRaised (d : Delivery α) (batchSize : Int) (left : Nat) (batch : List α) :
      d.point = .flushing batchSize left batch →
      DeliveryStep d (.flushed .raised) (d.lose batch)

/-- Ticks of a new runner. -/
def delivery (α : Type) : System (Delivery α) (DeliveryEvent α) where
  init d := d = ⟨Deque.empty, 0, 0, .idle, ⟨[], [], [], [], []⟩⟩
  step := DeliveryStep

/-- Every reading generated is sent, buffered or evicted, `events_sent` counts the first,
and the buffer is in the order in which it was filled. -/
structure Accounted {α : Type} (d : Delivery α) : Prop where
  readings : d.ledger.generated.Perm (d.ledger.sent ++ d.buffer.items ++ d.ledger.evicted)
  eventsSent : d.eventsSent = d.ledger.sent.length
  order : d.buffer.items.Sublist d.ledger.put

/-- No readings are left out of every batch, and no post of `_flush_buffer` raises. -/
def DeliveryEvent.Sound {α : Type} : DeliveryEvent α → Prop
  | .tick readings batchSize => readings = [] ∨ 0 < batchSize
  | .gathered _ => True
  | .flushed outcome => outcome ≠ .raised

/-! ## The books -/

namespace Delivery

variable {α : Type} {d : Delivery α}

/-- The buffer, with what has been popped from its front, is in order and within bounds. -/
structure Ordered (d : Delivery α) (popped : List α) : Prop where
  order : (popped ++ d.buffer.items).Sublist d.ledger.put
  room : popped.length + d.buffer.items.length ≤ bufferMax

theorem Ordered.keep (ordered : Ordered d []) (batch : List α) : Ordered (d.keep batch) [] where
  order := by
    have extended := d.buffer.extend_eq batch
    have suffix : (d.buffer.extend batch).1.items.Sublist (d.buffer.items ++ batch) := by
      rw [← extended]
      exact List.sublist_append_right _ _
    exact suffix.trans (List.Sublist.append ordered.order (List.Sublist.refl batch))
  room := by
    rw [List.length_nil, Nat.zero_add]
    exact (d.buffer.extend batch).1.length_le

/-- What has been popped has gone elsewhere. -/
theorem Ordered.gone {d' : Delivery α} {popped : List α} (ordered : Ordered d popped)
    (buffer : d'.buffer = d.buffer) (put : d'.ledger.put = d.ledger.put) : Ordered d' [] where
  order := by
    rw [buffer, put]
    exact (List.sublist_append_right _ _).trans ordered.order
  room := by
    rw [List.length_nil, Nat.zero_add]
    exact d'.buffer.length_le

theorem Ordered.settle {results : List (List α × Outcome)} (ordered : Ordered d []) :
    Ordered (d.settle results) [] := by
  induction results generalizing d with
  | nil => exact ordered
  | cons result results ih =>
      obtain ⟨batch, outcome⟩ := result
      cases outcome with
      | returned => exact ih ⟨ordered.order, ordered.room⟩
      | none => exact ih (ordered.keep batch)
      | raised => exact ih (ordered.keep batch)

/-- A loop over results loses nothing. -/
theorem settle_lost (d : Delivery α) (results : List (List α × Outcome)) :
    (d.settle results).ledger.lost = d.ledger.lost := by
  induction results generalizing d with
  | nil => rfl
  | cons result results ih =>
      obtain ⟨batch, outcome⟩ := result
      cases outcome with
      | returned => exact ih _
      | none => exact ih _
      | raised => exact ih _

/-- What is popped for a flush is under way, and nothing has become of it. -/
@[simp] theorem attempt_ledger (batchSize : Int) (d : Delivery α) (left : Nat) :
    (d.attempt batchSize left).ledger = d.ledger := by
  cases left with
  | zero => rfl
  | succ left =>
      rw [attempt]
      split <;> rfl

@[simp] theorem startFlush_ledger (batchSize : Int) (d : Delivery α) :
    (d.startFlush batchSize).ledger = d.ledger := by
  unfold startFlush
  split
  · rfl
  · exact attempt_ledger _ _ _

/-- A batch size that is not positive gives no attempt at a flush. -/
theorem retries_eq_zero {batchSize : Int} (negative : batchSize < 0)
    (nonempty : d.buffer.items ≠ []) : d.retries batchSize = 0 := by
  have length : 0 < d.buffer.items.length := List.length_pos_iff.mpr nonempty
  have quotient : Int.fdiv d.buffer.items.length batchSize < 0 := by
    rw [← Int.neg_fdiv_neg]
    exact Int.fdiv_neg_of_neg_of_pos (by omega) (by omega)
  unfold retries
  omega

variable [DecidableEq α]

/-- Every reading is in one place; `held` are those of the batches under way. -/
structure Books (d : Delivery α) (held : List α) : Prop where
  readings : ∀ a, d.ledger.generated.count a = d.ledger.sent.count a + d.buffer.items.count a +
    d.ledger.evicted.count a + d.ledger.lost.count a + held.count a
  eventsSent : d.eventsSent = d.ledger.sent.length

theorem Books.send {batch rest : List α} (books : Books d (batch ++ rest)) :
    Books (d.send batch) rest where
  readings a := by
    have := books.readings a
    simp only [Delivery.send, List.count_append] at this ⊢
    omega
  eventsSent := by
    have := books.eventsSent
    simp only [Delivery.send, List.length_append]
    omega

theorem Books.keep {batch rest : List α} (books : Books d (batch ++ rest)) :
    Books (d.keep batch) rest where
  readings a := by
    have before := books.readings a
    have extended := congrArg (List.count a) (d.buffer.extend_eq batch)
    simp only [Delivery.keep, List.count_append] at before extended ⊢
    omega
  eventsSent := books.eventsSent

/-- The readings of a tick, and its batches. -/
theorem Books.generate (books : Books d []) (readings : List α) (batchSize : Int) :
    Books (d.generate readings batchSize) (batches batchSize readings).flatten where
  readings a := by
    have before := books.readings a
    by_cases positive : 0 < batchSize
    · have whole := flatten_slices (n := batchSize.toNat) (by omega) readings
      simp only [batches, Delivery.generate, if_pos positive, whole, List.count_append,
        List.count_nil] at before ⊢
      omega
    · simp only [batches, Delivery.generate, if_neg positive, List.count_append, List.count_nil,
        List.flatten_nil] at before ⊢
      omega
  eventsSent := books.eventsSent

/-- The loop over the results settles every batch. -/
theorem Books.settle {results : List (List α × Outcome)}
    (books : Books d (results.map Prod.fst).flatten) : Books (d.settle results) [] := by
  induction results generalizing d with
  | nil => exact books
  | cons result results ih =>
      obtain ⟨batch, outcome⟩ := result
      cases outcome with
      | returned => exact ih books.send
      | none => exact ih books.keep
      | raised => exact ih books.keep

/-! ## The invariant -/

/-- The readings a tick holds at its await. -/
def held : Point α → List α
  | .idle => []
  | .gathering _ batches => batches.flatten
  | .flushing _ _ batch => batch

/-- Those it has popped from the buffer. -/
def popped : Point α → List α
  | .flushing _ _ batch => batch
  | _ => []

structure Inv (d : Delivery α) : Prop where
  books : Books d (held d.point)
  ordered : Ordered d (popped d.point)
  gathering : ∀ batchSize batches, d.point = .gathering batchSize batches → batchSize ≠ 0
  flushing : ∀ batchSize left batch, d.point = .flushing batchSize left batch →
    0 < batchSize ∧ batch ≠ []

/-- Between two ticks. -/
theorem Inv.idle (point : d.point = .idle) (books : Books d []) (ordered : Ordered d []) :
    Inv d := by
  refine ⟨?_, ?_, ?_, ?_⟩
  · rw [point]
    exact books
  · rw [point]
    exact ordered
  · rw [point]
    intro _ _ h
    cases h
  · rw [point]
    intro _ _ _ h
    cases h

theorem Inv.rest (books : Books d []) (ordered : Ordered d []) :
    Inv { d with point := .idle } :=
  .idle rfl ⟨books.readings, books.eventsSent⟩ ⟨ordered.order, ordered.room⟩

theorem Inv.attempt (books : Books d []) (ordered : Ordered d []) {batchSize : Int}
    (positive : 0 < batchSize) (left : Nat) : Inv (d.attempt batchSize left) := by
  cases left with
  | zero => exact .rest books ordered
  | succ left =>
      rw [Delivery.attempt]
      split
      · exact .rest books ordered
      case isFalse nonempty =>
        have split := d.buffer.popLeft_eq (min batchSize d.buffer.items.length).toNat
        refine ⟨⟨?_, books.eventsSent⟩, ⟨?_, ?_⟩, fun _ _ h => (by cases h), ?_⟩
        · intro a
          have before := books.readings a
          have parts := congrArg (List.count a) split
          simp only [List.count_append, List.count_nil, held] at before parts ⊢
          omega
        · show ((d.buffer.popLeft _).1 ++ (d.buffer.popLeft _).2.items).Sublist d.ledger.put
          rw [split]
          exact ordered.order
        · exact d.buffer.popLeft_length _
        · intro batchSize' left' batch same
          cases same
          refine ⟨positive, ?_⟩
          have length : 0 < d.buffer.items.length := List.length_pos_iff.mpr nonempty
          rw [← List.length_pos_iff]
          simp only [Deque.popLeft, List.length_take]
          omega

theorem Inv.startFlush (books : Books d []) (ordered : Ordered d []) {batchSize : Int}
    (nonzero : batchSize ≠ 0) : Inv (d.startFlush batchSize) := by
  unfold Delivery.startFlush
  split
  · exact .rest books ordered
  case isFalse nonempty =>
    by_cases positive : 0 < batchSize
    · exact .attempt books ordered positive _
    · rw [retries_eq_zero (by omega) nonempty]
      exact .rest books ordered

theorem Inv.step {d' : Delivery α} {event : DeliveryEvent α} (inv : Inv d)
    (step : DeliveryStep d event d') : Inv d' := by
  have books := inv.books
  have ordered := inv.ordered
  cases step with
  | empty batchSize idle => exact inv
  | tick readings batchSize idle nonempty nonzero =>
      rw [idle] at books ordered
      refine ⟨?_, ⟨ordered.order, ordered.room⟩, ?_, fun _ _ _ h => by cases h⟩
      · have generated := books.generate readings batchSize
        exact ⟨generated.readings, generated.eventsSent⟩
      · intro _ _ same
        cases same
        exact nonzero
  | tickRaised readings idle nonempty =>
      rw [idle] at books ordered
      exact .idle idle (books.generate readings 0) ⟨ordered.order, ordered.room⟩
  | gathered batchSize batches results gathering length =>
      have nonzero := inv.gathering _ _ gathering
      rw [gathering] at books ordered
      have all : (batches.zip results).map Prod.fst = batches :=
        List.map_fst_zip (Nat.le_of_eq length.symm)
      refine .startFlush (Books.settle ?_) (Ordered.settle ordered) nonzero
      rw [all]
      exact books
  | flushReturned batchSize left batch flushing =>
      obtain ⟨positive, -⟩ := inv.flushing _ _ _ flushing
      rw [flushing] at books ordered
      refine .attempt (Books.send ?_) (ordered.gone rfl rfl) positive left
      rw [List.append_nil]
      exact books
  | flushNone batchSize left batch flushing =>
      rw [flushing] at books ordered
      have room : batch.length + d.buffer.items.length ≤ bufferMax := ordered.room
      obtain ⟨items, dropped⟩ := Deque.extendLeft_reverse room
      refine .idle rfl ⟨?_, books.eventsSent⟩ ⟨?_, ?_⟩
      · intro a
        have before := books.readings a
        simp only [restore, held, items, dropped, List.count_append,
          List.count_nil] at before ⊢
        omega
      · show ((d.buffer.extendLeft batch.reverse).1.items).Sublist d.ledger.put
        rw [items]
        exact ordered.order
      · rw [List.length_nil, Nat.zero_add]
        exact (d.buffer.extendLeft batch.reverse).1.length_le
  | flushRaised batchSize left batch flushing =>
      rw [flushing] at books ordered
      refine .idle rfl ⟨?_, books.eventsSent⟩ (ordered.gone rfl rfl)
      intro a
      have before := books.readings a
      simp only [lose, held, List.count_append, List.count_nil] at before ⊢
      omega

/-- A step loses readings exactly when it is not sound. -/
theorem step_lost {d' : Delivery α} {event : DeliveryEvent α} (inv : Inv d)
    (step : DeliveryStep d event d') :
    d'.ledger.lost = [] ↔ d.ledger.lost = [] ∧ event.Sound := by
  cases step with
  | empty batchSize idle => exact (and_iff_left (.inl rfl)).symm
  | tick readings batchSize idle nonempty nonzero =>
      show d.ledger.lost ++ (if 0 < batchSize then [] else readings) = [] ↔ _
      rw [List.append_eq_nil_iff]
      apply and_congr_right
      intro _
      by_cases positive : 0 < batchSize
      · simp [positive, DeliveryEvent.Sound]
      · simp [positive, DeliveryEvent.Sound]
  | tickRaised readings idle nonempty =>
      show d.ledger.lost ++ (if 0 < 0 then [] else readings) = [] ↔ _
      simp [DeliveryEvent.Sound]
  | gathered batchSize batches results gathering length =>
      have same : ((d.settle (batches.zip results)).startFlush batchSize).ledger.lost =
          d.ledger.lost := by
        rw [startFlush_ledger, settle_lost]
      rw [same]
      exact (and_iff_left trivial).symm
  | flushReturned batchSize left batch flushing =>
      rw [attempt_ledger]
      exact (and_iff_left (fun h => by cases h)).symm
  | flushNone batchSize left batch flushing =>
      exact (and_iff_left (fun h => by cases h)).symm
  | flushRaised batchSize left batch flushing =>
      obtain ⟨-, nonempty⟩ := inv.flushing _ _ _ flushing
      show d.ledger.lost ++ batch = [] ↔ _
      simp [DeliveryEvent.Sound, nonempty]

/-- Between two ticks the readings are accounted for exactly when none has been lost. -/
theorem Inv.accounted_of_idle (inv : Inv d) (idle : d.point = .idle) :
    Accounted d ↔ d.ledger.lost = [] := by
  have books := inv.books
  have ordered := inv.ordered
  rw [idle] at books ordered
  constructor
  · intro accounted
    have lost : ∀ a, d.ledger.lost.count a = 0 := by
      intro a
      have before := books.readings a
      have same := accounted.readings.count_eq a
      simp only [held, List.count_append, List.count_nil] at before same
      omega
    cases h : d.ledger.lost with
    | nil => rfl
    | cons a rest =>
        have none' := lost a
        rw [h, List.count_cons_self] at none'
        cases none'
  · intro none'
    refine ⟨?_, books.eventsSent, ordered.order⟩
    rw [List.perm_iff_count]
    intro a
    have before := books.readings a
    simp only [none', held, List.count_append, List.count_nil] at before ⊢
    omega

/-- After a run, the invariant, and whether anything has been lost. -/
theorem Inv.run {d₀ : Delivery α} {events : List (DeliveryEvent α)}
    (start : (delivery α).init d₀) (run : (delivery α).Run d₀ events d) :
    Inv d ∧ (d.ledger.lost = [] ↔ ∀ event ∈ events, event.Sound) := by
  induction run with
  | nil =>
      obtain rfl := start
      refine ⟨.idle rfl ⟨fun _ => rfl, rfl⟩ ⟨List.Sublist.refl _, Nat.zero_le _⟩, ?_⟩
      simp
  | snoc _ step ih =>
      obtain ⟨inv, lost⟩ := ih
      refine ⟨inv.step step, ?_⟩
      rw [step_lost inv step, lost]
      simp only [List.forall_mem_append, List.forall_mem_singleton]

end Delivery

/-- **Every reading is accounted for exactly in the runs in which every reading gets into a
batch and no post of `_flush_buffer` raises**: between two ticks of any run, for any
readings, batch sizes and outcomes of the posts. -/
theorem accounted_iff {α : Type} {d₀ d : Delivery α} {events : List (DeliveryEvent α)}
    (start : (delivery α).init d₀) (run : (delivery α).Run d₀ events d)
    (idle : d.point = .idle) : Accounted d ↔ ∀ event ∈ events, event.Sound := by
  classical
  obtain ⟨inv, lost⟩ := Delivery.Inv.run start run
  rw [inv.accounted_of_idle idle, lost]

/-! ## The posts of a run -/

/-- The readings of a tick. -/
def DeliveryEvent.readings {α : Type} : DeliveryEvent α → List α
  | .tick readings _ => readings
  | _ => []

namespace Delivery

variable {α : Type} {d₀ d d' : Delivery α}

/-- The posts that end with an event, each with its outcome. -/
def posts (d : Delivery α) : DeliveryEvent α → List (List α × Outcome)
  | .tick _ _ => []
  | .gathered results =>
      match d.point with
      | .gathering _ batches => batches.zip results
      | _ => []
  | .flushed outcome =>
      match d.point with
      | .flushing _ _ batch => [(batch, outcome)]
      | _ => []

/-- The readings of the posts that returned. -/
def returned : List (List α × Outcome) → List α
  | [] => []
  | (batch, .returned) :: posts => batch ++ returned posts
  | _ :: posts => returned posts

@[simp] theorem returned_append (posts posts' : List (List α × Outcome)) :
    returned (posts ++ posts') = returned posts ++ returned posts' := by
  induction posts with
  | nil => rfl
  | cons post posts ih =>
      obtain ⟨batch, outcome⟩ := post
      cases outcome with
      | returned => exact (congrArg (batch ++ ·) ih).trans (List.append_assoc ..).symm
      | none => exact ih
      | raised => exact ih

/-- A run with the posts made in it. -/
inductive Posted : Delivery α → List (DeliveryEvent α) → List (List α × Outcome) → Delivery α →
    Prop where
  | nil (d : Delivery α) : Posted d [] [] d
  | snoc {d₀ d d' : Delivery α} {events : List (DeliveryEvent α)} {event : DeliveryEvent α}
      {made : List (List α × Outcome)} : Posted d₀ events made d → DeliveryStep d event d' →
      Posted d₀ (events ++ [event]) (made ++ d.posts event) d'

theorem settle_sent (d : Delivery α) (results : List (List α × Outcome)) :
    (d.settle results).ledger.sent = d.ledger.sent ++ returned results := by
  induction results generalizing d with
  | nil => exact (List.append_nil _).symm
  | cons result results ih =>
      obtain ⟨batch, outcome⟩ := result
      cases outcome with
      | returned => exact (ih (d.send batch)).trans (List.append_assoc ..)
      | none => exact ih (d.keep batch)
      | raised => exact ih (d.keep batch)

/-- A step sends the readings of its posts that return. -/
theorem step_sent {event : DeliveryEvent α} (step : DeliveryStep d event d') :
    d'.ledger.sent = d.ledger.sent ++ returned (d.posts event) := by
  cases step with
  | empty batchSize idle => exact (List.append_nil _).symm
  | tick readings batchSize idle nonempty nonzero => exact (List.append_nil _).symm
  | tickRaised readings idle nonempty => exact (List.append_nil _).symm
  | gathered batchSize batches results gathering length =>
      rw [startFlush_ledger, settle_sent]
      simp only [posts, gathering]
  | flushReturned batchSize left batch flushing =>
      rw [attempt_ledger]
      simp only [posts, flushing, send, returned, List.append_nil]
  | flushNone batchSize left batch flushing =>
      simp only [posts, flushing, restore, returned, List.append_nil]
  | flushRaised batchSize left batch flushing =>
      simp only [posts, flushing, lose, returned, List.append_nil]

theorem settle_generated (d : Delivery α) (results : List (List α × Outcome)) :
    (d.settle results).ledger.generated = d.ledger.generated := by
  induction results generalizing d with
  | nil => rfl
  | cons result results ih =>
      obtain ⟨batch, outcome⟩ := result
      cases outcome with
      | returned => exact ih _
      | none => exact ih _
      | raised => exact ih _

/-- Readings are generated by ticks alone. -/
theorem step_generated {event : DeliveryEvent α} (step : DeliveryStep d event d') :
    d'.ledger.generated = d.ledger.generated ++ event.readings := by
  cases step with
  | empty batchSize idle => exact (List.append_nil _).symm
  | tick readings batchSize idle nonempty nonzero => rfl
  | tickRaised readings idle nonempty => rfl
  | gathered batchSize batches results gathering length =>
      rw [startFlush_ledger, settle_generated]
      exact (List.append_nil _).symm
  | flushReturned batchSize left batch flushing =>
      rw [attempt_ledger]
      exact (List.append_nil _).symm
  | flushNone batchSize left batch flushing => exact (List.append_nil _).symm
  | flushRaised batchSize left batch flushing => exact (List.append_nil _).symm

end Delivery

/-- **The ledger of a run**: the readings generated are those of its ticks, and the readings
sent those of its posts that returned, in the order of their outcomes. -/
theorem ledger_run {α : Type} {d₀ d : Delivery α} {events : List (DeliveryEvent α)}
    (start : (delivery α).init d₀) (run : (delivery α).Run d₀ events d) :
    d.ledger.generated = events.flatMap DeliveryEvent.readings ∧
      ∃ made, Delivery.Posted d₀ events made d ∧ d.ledger.sent = Delivery.returned made := by
  induction run with
  | nil =>
      obtain rfl := start
      exact ⟨rfl, [], .nil _, rfl⟩
  | snoc _ step ih =>
      obtain ⟨generated, made, posted, sent⟩ := ih
      refine ⟨?_, _, posted.snoc step, ?_⟩
      · rw [Delivery.step_generated step, generated, List.flatMap_append, List.flatMap_singleton]
      · rw [Delivery.step_sent step, sent, Delivery.returned_append]

/-- Three readings in batches of two: one batch fails, is flushed, and fails again. -/
theorem accounted_retried : ∃ d₀ d events, (delivery Nat).init d₀ ∧
    (delivery Nat).Run d₀ events d ∧ d.eventsSent = 1 ∧ d.buffer.items = [1, 2] ∧
    Accounted d := by
  have start : (delivery Nat).init ⟨Deque.empty, 0, 0, .idle, ⟨[], [], [], [], []⟩⟩ := rfl
  have none' : (delivery Nat).Run ⟨Deque.empty, 0, 0, .idle, ⟨[], [], [], [], []⟩⟩ [] _ :=
    .nil _
  have ticked := none'.snoc (DeliveryStep.tick _ [1, 2, 3] 2 rfl (by decide) (by decide))
  have gathered := ticked.snoc (DeliveryStep.gathered _ 2 [[1, 2], [3]] [.none, .returned] rfl rfl)
  have flushed := gathered.snoc (DeliveryStep.flushNone _ 2 1 [1, 2] rfl)
  refine ⟨_, _, _, start, flushed, rfl, rfl, (accounted_iff start flushed rfl).mpr ?_⟩
  simp [DeliveryEvent.Sound]

/-- A batch of one fails and is buffered; the post that flushes it raises. -/
theorem flush_loses : ∃ d₀ d events, (delivery Nat).init d₀ ∧
    (delivery Nat).Run d₀ events d ∧ d.point = .idle ∧ ¬ Accounted d := by
  have start : (delivery Nat).init ⟨Deque.empty, 0, 0, .idle, ⟨[], [], [], [], []⟩⟩ := rfl
  have none' : (delivery Nat).Run ⟨Deque.empty, 0, 0, .idle, ⟨[], [], [], [], []⟩⟩ [] _ :=
    .nil _
  have ticked := none'.snoc (DeliveryStep.tick _ [1] 100 rfl (by decide) (by decide))
  have gathered := ticked.snoc (DeliveryStep.gathered _ 100 [[1]] [.none] rfl rfl)
  have flushed := gathered.snoc (DeliveryStep.flushRaised _ 100 0 [1] rfl)
  refine ⟨_, _, _, start, flushed, rfl, fun accounted => ?_⟩
  have same := accounted.readings.length_eq
  cases same

end LocoTwin.Simulator
