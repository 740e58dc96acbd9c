/-
# DbWriter.Healthy -- a consumer whose Redis and whose database work

What the database accepts is a parameter: `stores` says of a record whether it goes
into the table (its types, its constraints).  A row is writable when it converts to a
record that is accepted; a message is `Unwritable` when it decodes and one of its rows is
not writable.

`Healthy` are the steps of `Step` in which no call fails and nobody stops the process: a
chunk commits exactly when each record of it is accepted, and is rolled back otherwise.

`startBatch_writable` and `startBatch_unwritable` say what a worker makes of a batch.
-/
import LocoTwin.DbWriter.StreamConsumer

namespace LocoTwin.DbWriter

open LocoTwin.Lib LocoTwin.Shared

set_option autoImplicit false

/-! ## Messages -/

/-- The row converts, and the database accepts the record. -/
def rowWritable (cfg : Config) (stores : Tuple → Bool) (row : PyVal) : Bool :=
  match rowToTuple cfg.py cfg.modelClass.columns row with
  | .error _ => false
  | .ok record => stores record

/-- The message decodes, and some row of it cannot be converted or stored. -/
def Unwritable (cfg : Config) (stores : Tuple → Bool) (fields : Fields) : Prop :=
  ∃ rows, entryRows cfg fields = some rows ∧ ∃ row ∈ rows, rowWritable cfg stores row = false

variable {cfg : Config} {stores : Tuple → Bool}

theorem rowWritable_iff {row : PyVal} : rowWritable cfg stores row = true ↔
    ∃ record, rowToTuple cfg.py cfg.modelClass.columns row = .ok record ∧
      stores record = true := by
  unfold rowWritable
  cases rowToTuple cfg.py cfg.modelClass.columns row <;> simp

theorem not_unwritable {fields : Fields} {rows : List PyVal}
    (decodes : entryRows cfg fields = some rows)
    (writable : ∀ row ∈ rows, rowWritable cfg stores row = true) :
    ¬Unwritable cfg stores fields := by
  rintro ⟨rows', decodes', row, mem, bad⟩
  obtain rfl : rows = rows' := Option.some.inj (decodes.symm.trans decodes')
  rw [writable row mem] at bad
  cases bad

/-! ## A worker's batch -/

/-- Writable rows convert to records that the database accepts. -/
theorem records_of_writable {rows : List PyVal}
    (writable : ∀ row ∈ rows, rowWritable cfg stores row = true) :
    ∃ records, rows.mapM (rowToTuple cfg.py cfg.modelClass.columns) = .ok records ∧
      ∀ record ∈ records, stores record = true := by
  have each : ∀ row ∈ rows, ∃ record,
      rowToTuple cfg.py cfg.modelClass.columns row = .ok record := by
    intro row mem
    obtain ⟨record, converted, -⟩ := rowWritable_iff.mp (writable row mem)
    exact ⟨record, converted⟩
  obtain ⟨records, converted⟩ := mapM_total each
  refine ⟨records, converted, ?_⟩
  intro record mem
  obtain ⟨row, row_mem, from_row⟩ := (mapM_ok converted).2 record mem
  obtain ⟨record', converted', accepted⟩ := rowWritable_iff.mp (writable row row_mem)
  obtain rfl : record' = record := Except.ok.inj (converted'.symm.trans from_row)
  exact accepted

/-- A batch of writable rows is cut into chunks that the database accepts. -/
theorem startBatch_writable (flush : 0 < cfg.rowsPerFlush) {batch : Batch}
    (writable : ∀ row ∈ batch.rows, rowWritable cfg stores row = true) :
    ∃ todo, startBatch cfg batch = afterChunk batch todo ∧
      ∀ chunk ∈ todo, ∀ record ∈ chunk, stores record = true := by
  obtain ⟨records, converted, accepted⟩ := records_of_writable writable
  rcases startBatch_cases cfg batch with ⟨-, eq⟩ | ⟨-, -, ⟨error, failed⟩ | zero⟩ |
    ⟨-, -, records', todo, converted', cut, eq⟩
  · exact ⟨[], eq, by simp⟩
  · rw [converted] at failed
    cases failed
  · omega
  · obtain rfl : records = records' := Except.ok.inj (converted.symm.trans converted')
    exact ⟨todo, eq, fun chunk mem record within =>
      accepted record (mem_of_mem_chunks cut mem within)⟩

/-- Where a row is not writable, the worker gives up or comes to a chunk that the
database rejects. -/
theorem startBatch_unwritable (flush : 0 < cfg.rowsPerFlush) {batch : Batch} {row : PyVal}
    (mem : row ∈ batch.rows) (bad : rowWritable cfg stores row = false) :
    startBatch cfg batch = .idle ∨ ∃ todo, startBatch cfg batch = .writing batch todo ∧
      ∃ chunk ∈ todo, ∃ record ∈ chunk, stores record = false := by
  rcases startBatch_cases cfg batch with ⟨none, -⟩ | ⟨-, idle, -⟩ |
    ⟨-, -, records, todo, converted, cut, eq⟩
  · simp [none] at mem
  · exact .inl idle
  · right
    obtain ⟨record, record_mem, from_row⟩ := (mapM_ok converted).1 row mem
    obtain ⟨chunk, chunk_mem, within⟩ := exists_mem_chunks flush.le cut record_mem
    have rejected : stores record = false := by
      simpa [rowWritable, from_row] using bad
    refine ⟨todo, ?_, chunk, chunk_mem, record, within, rejected⟩
    cases todo with
    | nil => simp at chunk_mem
    | cons first rest => exact eq

/-! ## Steps -/

/-- The steps of a consumer whose calls work. -/
inductive Healthy (cfg : Config) (stores : Tuple → Bool) : State → Label → State → Prop where
  | produce (s : State) (fields : Fields) :
      Healthy cfg stores s .producer
        { s with redis := { s.redis with stream := s.redis.stream ++ [fields] } }
  | drained (s : State) : s.proc.reader = .reading .draining →
      s.redis.pel.take cfg.readerBatchSize = [] →
      Healthy cfg stores s .reader (s.setReader (.reading .live))
  | readPending (s : State) : s.proc.reader = .reading .draining →
      s.redis.pel.take cfg.readerBatchSize ≠ [] →
      Healthy cfg stores s .reader (s.setReader (afterDecode .draining
        (decodeEntries cfg (s.redis.entries (s.redis.pel.take cfg.readerBatchSize)))))
  | readNew (s : State) (n : Nat) : s.proc.reader = .reading .live →
      n ≤ cfg.readerBatchSize → s.redis.delivered + n ≤ s.redis.stream.length →
      Healthy cfg stores s .reader ({ s with redis := s.redis.deliver n }.setReader
        (afterDecode .live
          (decodeEntries cfg (s.redis.entries (List.range' s.redis.delivered n)))))
  | ackPoison (s : State) (mode : Mode) (poisonIds : List MsgId) (batch : Batch) :
      s.proc.reader = .ackingPoison mode poisonIds batch →
      Healthy cfg stores s .reader
        ({ s with redis := s.redis.xack poisonIds }.setReader (afterPoison mode batch))
  | put (s : State) (mode : Mode) (batch : Batch) : s.proc.reader = .putting mode batch →
      hasRoom cfg s.proc.queue →
      Healthy cfg stores s .reader { s with proc :=
        { s.proc with reader := .reading mode, queue := s.proc.queue ++ [some batch] } }
  | get (s : State) (i : Nat) (batch : Batch) (rest : List (Option Batch)) :
      s.proc.workers[i]? = some .idle → s.proc.queue = some batch :: rest →
      Healthy cfg stores s (.worker i)
        ({ s with proc := { s.proc with queue := rest } }.setWorker i (startBatch cfg batch))
  | commit (s : State) (i : Nat) (batch : Batch) (chunk : List Tuple)
      (todo : List (List Tuple)) :
      s.proc.workers[i]? = some (.writing batch (chunk :: todo)) →
      (∀ record ∈ chunk, stores record = true) →
      Healthy cfg stores s (.worker i)
        ({ s with db := s.db.flush cfg i chunk }.setWorker i (afterChunk batch todo))
  | rollback (s : State) (i : Nat) (batch : Batch) (chunk : List Tuple)
      (todo : List (List Tuple)) :
      s.proc.workers[i]? = some (.writing batch (chunk :: todo)) →
      (∃ record ∈ chunk, stores record = false) →
      Healthy cfg stores s (.worker i) (s.setWorker i .idle)
  | ack (s : State) (i : Nat) (batch : Batch) : s.proc.workers[i]? = some (.acking batch) →
      Healthy cfg stores s (.worker i)
        ({ s with redis := s.redis.xack batch.messageIds }.setWorker i .idle)

/-- The consumer whose calls work, from a state on. -/
def healthy (cfg : Config) (stores : Tuple → Bool) (s₀ : State) : System State Label where
  init s := s = s₀
  step := Healthy cfg stores

/-- A healthy step is a step of the consumer. -/
theorem Healthy.toStep {s s' : State} {l : Label} (step : Healthy cfg stores s l s') :
    Step cfg s l s' := by
  cases step with
  | produce fields => exact .produce s fields
  | drained reading empty => exact .drained s reading empty
  | readPending reading pending => exact .readPending s reading pending
  | readNew n reading count available => exact .readNew s n reading count available
  | ackPoison mode poisonIds batch acking => exact .ackPoison s mode poisonIds batch acking
  | put mode batch putting room => exact .put s mode batch putting room
  | get i batch rest idle queue => exact .get s i batch rest idle queue
  | commit i batch chunk todo writing _ => exact .commit s i batch chunk todo false writing
  | rollback i batch chunk todo writing _ => exact .rollback s i batch (chunk :: todo) writing
  | ack i batch acking => exact .ack s i batch acking

end LocoTwin.DbWriter
