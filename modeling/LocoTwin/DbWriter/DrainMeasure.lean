/-
# DbWriter.DrainMeasure -- what comes closer while the pending list is replayed

`_drain_pending` reads from id 0 as long as something is pending, so what it hands out
may be in flight already, in the queue or with a worker.  `drainMeasure` is, in
lexicographic order,

* the length of the pending list;
* how far the reader is from putting a pending message in flight, 0 once one is;
* the number of workers without a pending message;
* the work left before the next acknowledgement: that of the workers with a pending
  message, or, while there is none, that of all workers and of the queue up to the
  first pending message.

No step of a replay raises it (`step_cases`), where all batches are writable.
-/
import LocoTwin.DbWriter.Healthy
import LocoTwin.Lib.Fairness
import LocoTwin.Lib.ListSet
import Mathlib.Data.List.TakeWhile
import Mathlib.Data.Prod.Lex

namespace LocoTwin.DbWriter

open LocoTwin.Lib LocoTwin.Shared

set_option autoImplicit false

/-! ## Pending messages in flight -/

/-- A message of the batch is still pending. -/
def Batch.holds (pel : List MsgId) (batch : Batch) : Bool :=
  batch.messageIds.any fun id => pel.contains id

def Worker.holds (pel : List MsgId) : Worker → Bool
  | .writing batch _ => batch.holds pel
  | .acking batch => batch.holds pel
  | _ => false

/-- The steps left until the worker is idle. -/
def Worker.work : Worker → Nat
  | .writing _ todo => todo.length + 1
  | .acking _ => 1
  | _ => 0

def itemHolds (pel : List MsgId) : Option Batch → Bool
  | some batch => batch.holds pel
  | none => false

def itemWork (cfg : Config) : Option Batch → Nat
  | some batch => (startBatch cfg batch).work + 1
  | none => 1

/-- A worker has a pending message. -/
def taken (s : State) : Bool := s.proc.workers.any (·.holds s.redis.pel)

/-- A pending message waits in the queue. -/
def queued (s : State) : Bool := s.proc.queue.any (itemHolds s.redis.pel)

/-- How far the reader is from putting a pending message in the queue. -/
def Reader.stage (pel : List MsgId) : Reader → Nat
  | .putting _ batch => if batch.holds pel then 1 else 4
  | .ackingPoison _ poisonIds _ => if poisonIds.any fun id => pel.contains id then 2 else 5
  | .reading _ => 3
  | .closing _ => 0

def stage (s : State) : Nat :=
  if taken s || queued s then 0 else s.proc.reader.stage s.redis.pel

/-- The workers without a pending message. -/
def free (s : State) : Nat := s.proc.workers.countP fun w => !w.holds s.redis.pel

def workLeft (cfg : Config) (s : State) : Nat :=
  if taken s then
    (s.proc.workers.map fun w => if w.holds s.redis.pel then w.work else 0).sum
  else
    (s.proc.workers.map Worker.work).sum +
      ((s.proc.queue.takeWhile fun item => !itemHolds s.redis.pel item).map (itemWork cfg)).sum

def drainMeasure (cfg : Config) (s : State) : Nat ×ₗ Nat ×ₗ Nat ×ₗ Nat :=
  toLex (s.redis.pel.length, toLex (stage s, toLex (free s, workLeft cfg s)))

variable {cfg : Config} {stores : Tuple → Bool} {s t : State}

theorem measure_lt_of_pel (less : t.redis.pel.length < s.redis.pel.length) :
    drainMeasure cfg t < drainMeasure cfg s :=
  Prod.Lex.toLex_lt_toLex.mpr (.inl less)

theorem measure_lt_of_stage (pel : t.redis.pel = s.redis.pel) (less : stage t < stage s) :
    drainMeasure cfg t < drainMeasure cfg s :=
  Prod.Lex.toLex_lt_toLex.mpr (.inr ⟨congrArg List.length pel,
    Prod.Lex.toLex_lt_toLex.mpr (.inl less)⟩)

theorem measure_lt_of_free (pel : t.redis.pel = s.redis.pel) (same : stage t = stage s)
    (less : free t < free s) : drainMeasure cfg t < drainMeasure cfg s :=
  Prod.Lex.toLex_lt_toLex.mpr (.inr ⟨congrArg List.length pel, Prod.Lex.toLex_lt_toLex.mpr
    (.inr ⟨same, Prod.Lex.toLex_lt_toLex.mpr (.inl less)⟩)⟩)

theorem measure_lt_of_work (pel : t.redis.pel = s.redis.pel) (same : stage t = stage s)
    (same' : free t = free s) (less : workLeft cfg t < workLeft cfg s) :
    drainMeasure cfg t < drainMeasure cfg s :=
  Prod.Lex.toLex_lt_toLex.mpr (.inr ⟨congrArg List.length pel, Prod.Lex.toLex_lt_toLex.mpr
    (.inr ⟨same, Prod.Lex.toLex_lt_toLex.mpr (.inr ⟨same', less⟩)⟩)⟩)

theorem measure_eq (pel : t.redis.pel = s.redis.pel) (same : stage t = stage s)
    (same' : free t = free s) (same'' : workLeft cfg t = workLeft cfg s) :
    drainMeasure cfg t = drainMeasure cfg s := by
  simp only [drainMeasure, pel, same, same', same'']

/-! ## Acknowledgements -/

/-- An acknowledgement of a pending message shortens the list. -/
theorem xack_shorter {redis : Redis} {ids : List MsgId}
    (pending : ids.any (fun id => redis.pel.contains id) = true) :
    (redis.xack ids).pel.length < redis.pel.length := by
  obtain ⟨id, mem, here⟩ := List.any_eq_true.mp pending
  refine List.length_filter_lt_length_iff_exists.mpr ⟨id, by simpa using here, ?_⟩
  simp [mem]

theorem xack_same {redis : Redis} {ids : List MsgId}
    (settled : ids.any (fun id => redis.pel.contains id) = false) :
    (redis.xack ids).pel = redis.pel := by
  refine List.filter_eq_self.mpr fun id mem => ?_
  have absent := List.any_eq_false.mp settled id
  simp only [Bool.not_eq_true', List.contains_eq_mem, decide_eq_false_iff_not]
  intro here
  exact absent here (by simpa using mem)

/-! ## What a step leaves as it is -/

theorem taken_congr (pel : t.redis.pel = s.redis.pel)
    (workers : t.proc.workers = s.proc.workers) : taken t = taken s := by
  rw [taken, pel, workers, taken]

theorem queued_congr (pel : t.redis.pel = s.redis.pel) (queue : t.proc.queue = s.proc.queue) :
    queued t = queued s := by
  rw [queued, pel, queue, queued]

theorem queued_put {batch : Batch} (pel : t.redis.pel = s.redis.pel)
    (queue : t.proc.queue = s.proc.queue ++ [some batch]) :
    queued t = (queued s || batch.holds s.redis.pel) := by
  rw [queued, pel, queue, queued]
  simp [itemHolds]

theorem stage_congr (same : taken t = taken s) (same' : queued t = queued s)
    (reader : t.proc.reader = s.proc.reader) (pel : t.redis.pel = s.redis.pel) :
    stage t = stage s := by
  simp only [stage, same, same', reader, pel]

section

variable {i : Nat} {w w' : Worker}

theorem taken_set (found : s.proc.workers[i]? = some w) (pel : t.redis.pel = s.redis.pel)
    (workers : t.proc.workers = s.proc.workers.set i w')
    (holds : w'.holds s.redis.pel = w.holds s.redis.pel) : taken t = taken s := by
  rw [taken, pel, workers, any_set_same found holds, taken]

theorem free_set (found : s.proc.workers[i]? = some w) (pel : t.redis.pel = s.redis.pel)
    (workers : t.proc.workers = s.proc.workers.set i w')
    (holds : w'.holds s.redis.pel = w.holds s.redis.pel) : free t = free s := by
  rw [free, pel, workers, countP_set_same found (by rw [holds]), free]

end

/-! ## Steps of a worker -/

/-- A step of a worker with what it has: the measure falls, unless a pending message is
with another worker. -/
theorem measure_worker {i : Nat} {w w' : Worker} (found : s.proc.workers[i]? = some w)
    (pel : t.redis.pel = s.redis.pel) (workers : t.proc.workers = s.proc.workers.set i w')
    (reader : t.proc.reader = s.proc.reader) (queue : t.proc.queue = s.proc.queue)
    (holds : w'.holds s.redis.pel = w.holds s.redis.pel) (less : w'.work < w.work) :
    drainMeasure cfg t < drainMeasure cfg s ∨
      drainMeasure cfg t = drainMeasure cfg s ∧ taken s = true ∧
        w.holds s.redis.pel = false := by
  have taken_eq := taken_set found pel workers holds
  have stage_eq := stage_congr taken_eq (queued_congr pel queue) reader pel
  have free_eq := free_set found pel workers holds
  cases some : taken s with
  | false =>
      left
      have sums := sum_map_set Worker.work found w'
      refine measure_lt_of_work pel stage_eq free_eq ?_
      simp only [workLeft, taken_eq, some, pel, workers, queue]
      simp only [Bool.false_eq_true, if_false]
      omega
  | true =>
      have sums := sum_map_set
        (fun w => if w.holds s.redis.pel then w.work else 0) found w'
      simp only [holds] at sums
      cases own : w.holds s.redis.pel with
      | true =>
          left
          refine measure_lt_of_work pel stage_eq free_eq ?_
          simp only [own, if_true] at sums
          simp only [workLeft, taken_eq, some, pel, workers, if_true]
          omega
      | false =>
          right
          refine ⟨measure_eq pel stage_eq free_eq ?_, rfl, rfl⟩
          simp only [own, Bool.false_eq_true, if_false, Nat.add_zero] at sums
          simp only [workLeft, taken_eq, some, pel, workers, if_true]
          exact sums

/-- Taking a batch from the queue lowers the measure, unless a pending message is with
a worker. -/
theorem measure_get {i : Nat} {batch : Batch} {rest : List (Option Batch)}
    (found : s.proc.workers[i]? = some .idle) (queue : s.proc.queue = some batch :: rest)
    (pel : t.redis.pel = s.redis.pel)
    (workers : t.proc.workers = s.proc.workers.set i (startBatch cfg batch))
    (reader : t.proc.reader = s.proc.reader) (queue' : t.proc.queue = rest)
    (holds : (startBatch cfg batch).holds s.redis.pel = batch.holds s.redis.pel) :
    drainMeasure cfg t < drainMeasure cfg s ∨
      drainMeasure cfg t = drainMeasure cfg s ∧ taken s = true := by
  have idle : Worker.idle.holds s.redis.pel = false := rfl
  cases own : batch.holds s.redis.pel with
  | true =>
      left
      have taken_t : taken t = true := by
        rw [taken, pel, workers]
        refine List.any_eq_true.mpr ⟨startBatch cfg batch, ?_, holds.trans own⟩
        obtain ⟨lt, -⟩ := List.getElem?_eq_some_iff.mp found
        exact List.mem_set lt _
      have queued_s : queued s = true := by
        rw [queued, queue]
        simp [itemHolds, own]
      refine measure_lt_of_free pel ?_ ?_
      · simp [stage, taken_t, queued_s]
      · rw [free, free, pel, workers]
        exact countP_set_lt found (by simp [idle]) (by simp [holds, own])
  | false =>
      have same : (startBatch cfg batch).holds s.redis.pel = Worker.idle.holds s.redis.pel := by
        rw [holds, own, idle]
      have taken_eq := taken_set found pel workers same
      have queued_eq : queued t = queued s := by
        rw [queued, queued, pel, queue, queue']
        simp [itemHolds, own]
      have stage_eq := stage_congr taken_eq queued_eq reader pel
      have free_eq := free_set found pel workers same
      cases some : taken s with
      | false =>
          left
          have sums := sum_map_set Worker.work found (startBatch cfg batch)
          refine measure_lt_of_work pel stage_eq free_eq ?_
          simp only [workLeft, taken_eq, some, pel, workers, queue, queue', itemHolds, own,
            List.takeWhile_cons, Bool.not_false, if_true, List.map_cons, List.sum_cons, itemWork]
          simp only [Bool.false_eq_true, if_false]
          simp only [show Worker.idle.work = 0 from rfl] at sums
          omega
      | true =>
          right
          refine ⟨measure_eq pel stage_eq free_eq ?_, rfl⟩
          have sums := sum_map_set
            (fun w => if w.holds s.redis.pel then w.work else 0) found (startBatch cfg batch)
          simp only [holds, own, idle, Bool.false_eq_true, if_false, Nat.add_zero] at sums
          simp only [workLeft, taken_eq, some, pel, workers, if_true]
          exact sums

/-! ## Steps of the reader -/

/-- While a pending message is in flight, what the reader does with no effect on the
queue does not count. -/
theorem measure_reader (flight : (taken s || queued s) = true)
    (pel : t.redis.pel = s.redis.pel) (workers : t.proc.workers = s.proc.workers)
    (queue : t.proc.queue = s.proc.queue) : drainMeasure cfg t = drainMeasure cfg s := by
  have taken_eq := taken_congr pel workers
  have queued_eq := queued_congr pel queue
  refine measure_eq pel ?_ ?_ ?_
  · simp only [stage, taken_eq, queued_eq, if_pos flight]
  · simp only [free, pel, workers]
  · simp only [workLeft, taken_eq, pel, workers, queue]

/-- With none in flight the reader comes closer by its stages. -/
theorem measure_reader_stage (none : (taken s || queued s) = false)
    (pel : t.redis.pel = s.redis.pel) (workers : t.proc.workers = s.proc.workers)
    (queue : t.proc.queue = s.proc.queue)
    (less : t.proc.reader.stage s.redis.pel < s.proc.reader.stage s.redis.pel) :
    drainMeasure cfg t < drainMeasure cfg s := by
  have taken_eq := taken_congr pel workers
  have queued_eq := queued_congr pel queue
  refine measure_lt_of_stage pel ?_
  simpa only [stage, taken_eq, queued_eq, none, pel, Bool.false_eq_true, if_false] using less

/-- A batch put behind a pending message in flight does not count. -/
theorem measure_put (flight : (taken s || queued s) = true) {batch : Batch}
    (pel : t.redis.pel = s.redis.pel) (workers : t.proc.workers = s.proc.workers)
    (queue : t.proc.queue = s.proc.queue ++ [some batch]) :
    drainMeasure cfg t = drainMeasure cfg s := by
  have taken_eq := taken_congr pel workers
  have queued_t := queued_put pel queue
  refine measure_eq pel ?_ ?_ ?_
  · have flight' : (taken t || queued t) = true := by
      rw [taken_eq, queued_t, ← Bool.or_assoc, flight, Bool.true_or]
    simp only [stage, if_pos flight, if_pos flight']
  · simp only [free, pel, workers]
  · cases some : taken s with
    | true => simp only [workLeft, taken_eq, some, pel, workers, if_true]
    | false =>
        have waits : queued s = true := by simpa [some] using flight
        obtain ⟨item, mem, here⟩ := List.any_eq_true.mp waits
        have stops : (s.proc.queue ++ [Option.some batch]).takeWhile
              (fun item => !itemHolds s.redis.pel item) =
            s.proc.queue.takeWhile fun item => !itemHolds s.redis.pel item := by
          rw [List.takeWhile_append, if_neg]
          intro whole
          have all := List.takeWhile_eq_self_iff.mp
            ((List.takeWhile_prefix _).eq_of_length whole) item mem
          simp [here] at all
        simp only [workLeft, taken_eq, some, pel, workers, queue, stops]

/-- With none in flight, a put comes closer. -/
theorem measure_put_stage (none : (taken s || queued s) = false) {mode : Mode} {batch : Batch}
    (putting : s.proc.reader = .putting mode batch) (pel : t.redis.pel = s.redis.pel)
    (workers : t.proc.workers = s.proc.workers)
    (queue : t.proc.queue = s.proc.queue ++ [some batch])
    (reading : t.proc.reader = .reading mode) : drainMeasure cfg t < drainMeasure cfg s := by
  have taken_eq := taken_congr pel workers
  have queued_t := queued_put pel queue
  obtain ⟨untaken, unqueued⟩ := Bool.or_eq_false_iff.mp none
  refine measure_lt_of_stage pel ?_
  simp only [stage, taken_eq, queued_t, untaken, unqueued, putting, reading, Bool.false_or,
    Reader.stage]
  cases batch.holds s.redis.pel <;> simp

end LocoTwin.DbWriter
