/-
# DbWriter.PoisonIsolation -- what one bad row does to the rest of a read

`processEntries` is what `_enqueue_entries` and then one worker do with the entries of a
read, the other tasks left out: malformed entries are acknowledged, the rows of all
others are merged into one batch, converted, cut into chunks and written up to the first
chunk that the database rejects; the batch is acknowledged when none was.
`processEntries_run` finds it among the runs of the consumer.

Since conversion, writing and acknowledgement are those of the whole batch, one row that
cannot be written costs every message of the batch its acknowledgement
(`poison_isolated_iff`), whatever its position.
-/
import LocoTwin.DbWriter.Durability
import LocoTwin.DbWriter.Healthy

namespace LocoTwin.DbWriter

open LocoTwin.Lib LocoTwin.Shared

set_option autoImplicit false

/-! ## One read -/

/-- The loop of `_write_batch`; `false` when it ends in an exception. -/
def writeChunks (cfg : Config) (stores : Tuple → Bool) (worker : Nat) :
    Database → List (List Tuple) → Database × Bool
  | db, [] => (db, true)
  | db, chunk :: todo =>
      if chunk.all stores then writeChunks cfg stores worker (db.flush cfg worker chunk) todo
      else (db, false)

/-- One round of `_worker_loop`. -/
def processBatch (cfg : Config) (stores : Tuple → Bool) (worker : Nat) (redis : Redis)
    (db : Database) (batch : Batch) : Redis × Database :=
  match startBatch cfg batch with
  | .writing _ todo =>
      match writeChunks cfg stores worker db todo with
      | (db, true) => (redis.xack batch.messageIds, db)
      | (db, false) => (redis, db)
  | .acking _ => (redis.xack batch.messageIds, db)
  | _ => (redis, db)

/-- `_enqueue_entries`, then the worker that takes the batch. -/
def processEntries (cfg : Config) (stores : Tuple → Bool) (worker : Nat) (redis : Redis)
    (db : Database) (entries : List (MsgId × Fields)) : Redis × Database :=
  let decoded := decodeEntries cfg entries
  let redis := if decoded.poisonIds.isEmpty then redis else redis.xack decoded.poisonIds
  if decoded.batch.messageIds.isEmpty then (redis, db)
  else processBatch cfg stores worker redis db decoded.batch

/-- What an `XREADGROUP` call returned: entries with distinct ids, which are pending. -/
structure Read (redis : Redis) where
  entries : List (MsgId × Fields)
  distinct : (entries.map Prod.fst).Nodup
  pending : ∀ e ∈ entries, e.1 ∈ redis.pel

/-- The row has its record in the table. -/
def InTable (cfg : Config) (table : Table) (row : PyVal) : Prop :=
  ∃ record, rowToTuple cfg.py cfg.modelClass.columns row = .ok record ∧
    primaryKey cfg.modelClass.columns record ∈ table.keys

/-- All rows of the entry are committed, and it is acknowledged. -/
structure Served (cfg : Config) (after : Redis × Database) (entry : MsgId × Fields) : Prop where
  committed : ∀ rows, entryRows cfg entry.2 = some rows → ∀ row ∈ rows,
    InTable cfg after.2.table row
  acknowledged : entry.1 ∉ after.1.pel

variable {cfg : Config} {stores : Tuple → Bool} {worker : Nat}

/-! ## A batch -/

theorem processBatch_idle {redis : Redis} {db : Database} {batch : Batch}
    (eq : startBatch cfg batch = .idle) :
    processBatch cfg stores worker redis db batch = (redis, db) := by
  simp [processBatch, eq]

theorem processBatch_chunks {redis : Redis} {db : Database} {batch : Batch}
    {todo : List (List Tuple)} (eq : startBatch cfg batch = afterChunk batch todo) :
    processBatch cfg stores worker redis db batch =
      (if (writeChunks cfg stores worker db todo).2 then redis.xack batch.messageIds else redis,
        (writeChunks cfg stores worker db todo).1) := by
  cases todo with
  | nil => simp [processBatch, eq, afterChunk, writeChunks]
  | cons chunk rest =>
      simp only [processBatch, eq, afterChunk]
      rcases writeChunks cfg stores worker db (chunk :: rest) with ⟨db', _ | _⟩ <;> rfl

/-! ## Among the runs of the consumer -/

theorem State.setWorker_setWorker (s : State) (i : Nat) (v w : Worker) :
    (s.setWorker i v).setWorker i w = s.setWorker i w := by
  simp [State.setWorker]

theorem State.setWorker_idle {s : State} {i : Nat} (idle : s.proc.workers[i]? = some .idle) :
    s.setWorker i .idle = s := by
  have same : s.proc.workers.set i .idle = s.proc.workers := by
    obtain ⟨lt, eq⟩ := List.getElem?_eq_some_iff.mp idle
    rw [← eq, List.set_getElem_self]
  simp only [State.setWorker, same]

theorem getElem?_setWorker {s : State} {i : Nat} (lt : i < s.proc.workers.length)
    (w : Worker) : (s.setWorker i w).proc.workers[i]? = some w := by
  simp [State.setWorker, lt]

/-- The chunks are written by the steps of the worker. -/
theorem writeChunks_run (cfg : Config) (stores : Tuple → Bool) (s₀ : State) {s : State}
    {batch : Batch} {todo : List (List Tuple)} (lt : worker < s.proc.workers.length) :
    ∃ ls, (healthy cfg stores s₀).Run (s.setWorker worker (afterChunk batch todo)) ls
      ({ s with db := (writeChunks cfg stores worker s.db todo).1 }.setWorker worker
        (if (writeChunks cfg stores worker s.db todo).2 then .acking batch else .idle)) := by
  induction todo generalizing s with
  | nil => exact ⟨[], .nil _⟩
  | cons chunk todo ih =>
      have writing := getElem?_setWorker lt (.writing batch (chunk :: todo))
      by_cases accepted : chunk.all stores = true
      · simp only [writeChunks, if_pos accepted]
        obtain ⟨ls, run⟩ := ih (s := { s with db := s.db.flush cfg worker chunk }) lt
        have commit : Healthy cfg stores _ _ _ :=
          .commit _ worker batch chunk todo writing (List.all_eq_true.mp accepted)
        have after : ({ s.setWorker worker (.writing batch (chunk :: todo)) with
            db := s.db.flush cfg worker chunk }.setWorker worker (afterChunk batch todo)) =
              { s with db := s.db.flush cfg worker chunk }.setWorker worker
                (afterChunk batch todo) :=
          State.setWorker_setWorker { s with db := s.db.flush cfg worker chunk } worker _ _
        exact ⟨_, .cons (after ▸ commit) run⟩
      · simp only [writeChunks, if_neg accepted]
        obtain ⟨record, mem, rejected⟩ : ∃ record ∈ chunk, stores record = false := by
          simpa using accepted
        have rollback : Healthy cfg stores _ _ _ :=
          .rollback _ worker batch chunk todo writing ⟨record, mem, rejected⟩
        rw [State.setWorker_setWorker] at rollback
        exact ⟨_, .cons rollback (.nil _)⟩

/-- From the queue to the acknowledgement. -/
theorem processBatch_run (cfg : Config) (stores : Tuple → Bool) (s₀ : State) {s : State}
    {batch : Batch} (idle : s.proc.workers[worker]? = some .idle)
    (queue : s.proc.queue = [some batch]) :
    ∃ ls, (healthy cfg stores s₀).Run s ls
      { redis := (processBatch cfg stores worker s.redis s.db batch).1
        db := (processBatch cfg stores worker s.redis s.db batch).2
        proc := { s.proc with queue := [] } } := by
  let taken : State := { s with proc := { s.proc with queue := [] } }
  have lt : worker < taken.proc.workers.length := (List.getElem?_eq_some_iff.mp idle).1
  have get : Healthy cfg stores s (.worker worker)
      (taken.setWorker worker (startBatch cfg batch)) :=
    .get s worker batch [] idle queue
  have back (redis : Redis) (db : Database) :
      ({ taken with redis, db }.setWorker worker .idle) = { taken with redis, db } :=
    State.setWorker_idle idle
  have acknowledge (db : Database) : (healthy cfg stores s₀).Run
      ({ taken with db }.setWorker worker (.acking batch)) [.worker worker]
      { taken with redis := s.redis.xack batch.messageIds, db } := by
    have ack : Healthy cfg stores ({ taken with db }.setWorker worker (.acking batch)) _ _ :=
      .ack _ worker batch (getElem?_setWorker lt _)
    have after := State.setWorker_setWorker
      { taken with redis := s.redis.xack batch.messageIds, db } worker (.acking batch) .idle
    exact .cons (after.trans (back _ _) ▸ ack) (.nil _)
  have shape : startBatch cfg batch = .idle ∨
      ∃ todo, startBatch cfg batch = afterChunk batch todo := by
    rcases startBatch_cases cfg batch with ⟨-, eq⟩ | ⟨-, eq, -⟩ | ⟨-, -, -, todo, -, -, eq⟩
    · exact .inr ⟨[], eq⟩
    · exact .inl eq
    · exact .inr ⟨todo, eq⟩
  rcases shape with eq | ⟨todo, eq⟩
  · rw [processBatch_idle eq]
    rw [eq, back s.redis s.db] at get
    exact ⟨_, .cons get (.nil _)⟩
  · rw [processBatch_chunks eq]
    rw [eq] at get
    obtain ⟨ls, write⟩ := writeChunks_run cfg stores s₀ lt
    have started := write.cons get
    rw [show taken.db = s.db from rfl] at started
    cases all : (writeChunks cfg stores worker s.db todo).2 with
    | false =>
        simp only [all] at started
        exact ⟨_, back s.redis _ ▸ started⟩
    | true =>
        simp only [all] at started
        exact ⟨_, started.append (acknowledge _)⟩

/-- **A read processed alone is a run of the consumer**: from its decoding, the queue
empty and the worker idle, to the reader's next read. -/
theorem processEntries_run (cfg : Config) (stores : Tuple → Bool) (s : State) (mode : Mode)
    (entries : List (MsgId × Fields))
    (reader : s.proc.reader = afterDecode mode (decodeEntries cfg entries))
    (idle : s.proc.workers[worker]? = some .idle) (queue : s.proc.queue = [])
    (room : hasRoom cfg []) :
    ∃ ls, (healthy cfg stores s).Run s ls
      { redis := (processEntries cfg stores worker s.redis s.db entries).1
        db := (processEntries cfg stores worker s.redis s.db entries).2
        proc := { s.proc with reader := .reading mode } } := by
  let decoded := decodeEntries cfg entries
  let redis := if decoded.poisonIds.isEmpty then s.redis else s.redis.xack decoded.poisonIds
  let clean : State := { s with redis }.setReader (afterPoison mode decoded.batch)
  obtain ⟨ls, cleared⟩ : ∃ ls, (healthy cfg stores s).Run s ls clean := by
    by_cases none : decoded.poisonIds.isEmpty = true
    · have same : clean = s := by
        have here : afterPoison mode decoded.batch = s.proc.reader := by
          rw [reader, afterDecode, if_pos none]
        simp only [clean, redis, if_pos none, State.setReader, here]
      rw [same]
      exact ⟨[], .nil _⟩
    · have ackPoison : Healthy cfg stores s .reader _ :=
        .ackPoison s mode decoded.poisonIds decoded.batch (by rw [reader, afterDecode, if_neg none])
      have same : clean = ({ s with redis := s.redis.xack decoded.poisonIds }.setReader
          (afterPoison mode decoded.batch)) := by
        simp only [clean, redis, if_neg none]
      rw [same]
      exact ⟨_, .cons ackPoison (.nil _)⟩
  by_cases empty : decoded.batch.messageIds.isEmpty = true
  · refine ⟨ls, ?_⟩
    have after : processEntries cfg stores worker s.redis s.db entries = (redis, s.db) :=
      if_pos empty
    have here : afterPoison mode decoded.batch = .reading mode := if_pos empty
    rw [after]
    simpa only [clean, State.setReader, here] using cleared
  · have after : processEntries cfg stores worker s.redis s.db entries =
        processBatch cfg stores worker redis s.db decoded.batch := if_neg empty
    have put : Healthy cfg stores clean .reader _ :=
      .put clean mode decoded.batch (if_neg empty) (show hasRoom cfg s.proc.queue from queue ▸ room)
    let queue' := clean.proc.queue ++ [some decoded.batch]
    let queued : State :=
      { clean with proc := { clean.proc with reader := .reading mode, queue := queue' } }
    have one : queued.proc.queue = [some decoded.batch] := by
      show s.proc.queue ++ [some decoded.batch] = [some decoded.batch]
      rw [queue, List.nil_append]
    obtain ⟨ks, processed⟩ := processBatch_run cfg stores s (s := queued) idle one
    have last : ({ queued.proc with queue := [] } : Process) =
        { s.proc with reader := .reading mode } := by
      rw [← queue]
      rfl
    rw [last] at processed
    rw [after]
    exact ⟨_, (cleared.snoc put).append processed⟩

/-! ## What a batch comes to -/

theorem keys_flush {db : Database} {chunk : List Tuple} :
    (∀ key ∈ db.table.keys, key ∈ (db.flush cfg worker chunk).table.keys) ∧
      ∀ record ∈ chunk,
        primaryKey cfg.modelClass.columns record ∈ (db.flush cfg worker chunk).table.keys := by
  obtain ⟨kept, present, -⟩ := insertAll_spec cfg.modelClass.columns chunk db.table
  refine ⟨?_, present⟩
  intro key mem
  obtain ⟨row, found⟩ := Dict.mem_keys.mp mem
  exact Dict.mem_keys.mpr ⟨row, kept key row found⟩

theorem writeChunks_keys {db : Database} {todo : List (List Tuple)} :
    ∀ key ∈ db.table.keys, key ∈ (writeChunks cfg stores worker db todo).1.table.keys := by
  induction todo generalizing db with
  | nil => exact fun key mem => mem
  | cons chunk todo ih =>
      intro key mem
      unfold writeChunks
      split_ifs
      · exact ih key (keys_flush.1 key mem)
      · exact mem

theorem writeChunks_all {db : Database} {todo : List (List Tuple)}
    (all : ∀ chunk ∈ todo, ∀ record ∈ chunk, stores record = true) :
    (writeChunks cfg stores worker db todo).2 = true ∧
      ∀ chunk ∈ todo, ∀ record ∈ chunk, primaryKey cfg.modelClass.columns record ∈
        (writeChunks cfg stores worker db todo).1.table.keys := by
  induction todo generalizing db with
  | nil => simp [writeChunks]
  | cons chunk todo ih =>
      have here : chunk.all stores = true := List.all_eq_true.mpr (all chunk List.mem_cons_self)
      obtain ⟨done, later⟩ := @ih (db.flush cfg worker chunk) fun c mem =>
        all c (List.mem_cons_of_mem _ mem)
      simp only [writeChunks, if_pos here]
      refine ⟨done, ?_⟩
      intro c mem record within
      rcases List.mem_cons.mp mem with rfl | mem
      · exact writeChunks_keys _ (keys_flush.2 record within)
      · exact later c mem record within

theorem writeChunks_rejected {db : Database} {todo : List (List Tuple)} {chunk : List Tuple}
    (mem : chunk ∈ todo) {record : Tuple} (within : record ∈ chunk)
    (rejected : stores record = false) : (writeChunks cfg stores worker db todo).2 = false := by
  induction todo generalizing db with
  | nil => simp at mem
  | cons first todo ih =>
      unfold writeChunks
      split_ifs with here
      · rcases List.mem_cons.mp mem with rfl | mem
        · exact absurd (List.all_eq_true.mp here record within) (by simp [rejected])
        · exact ih mem
      · rfl

/-- The rows come to an acknowledgement: there are none, or they convert, and each
chunk that is written is accepted. -/
def Accepted (cfg : Config) (stores : Tuple → Bool) (rows : List PyVal) : Prop :=
  rows = [] ∨ cfg.rowsPerFlush ≠ 0 ∧
    ∃ records, rows.mapM (rowToTuple cfg.py cfg.modelClass.columns) = .ok records ∧
      (0 < cfg.rowsPerFlush → ∀ record ∈ records, stores record = true)

theorem processBatch_accepted {redis : Redis} {db : Database} {batch : Batch}
    (accepted : Accepted cfg stores batch.rows) :
    (processBatch cfg stores worker redis db batch).1 = redis.xack batch.messageIds ∧
      (0 < cfg.rowsPerFlush → ∀ row ∈ batch.rows,
        InTable cfg (processBatch cfg stores worker redis db batch).2.table row) ∧
      (cfg.rowsPerFlush < 0 → (processBatch cfg stores worker redis db batch).2 = db) := by
  rcases startBatch_cases cfg batch with ⟨none, eq⟩ | ⟨some, -, failed⟩ |
    ⟨some, -, records, todo, converted, cut, eq⟩
  · have no_chunk : startBatch cfg batch = afterChunk batch [] := eq
    rw [processBatch_chunks no_chunk]
    exact ⟨rfl, by simp [none], fun _ => rfl⟩
  · obtain ⟨flush, records, converted, -⟩ := accepted.resolve_left some
    rcases failed with ⟨error, failed⟩ | zero
    · rw [converted] at failed
      cases failed
    · exact absurd zero flush
  · obtain ⟨flush, records', converted', stored⟩ := accepted.resolve_left some
    obtain rfl : records = records' := Except.ok.inj (converted.symm.trans converted')
    rw [processBatch_chunks eq]
    rcases lt_or_gt_of_ne flush with negative | positive
    · -- `range` counts up to nothing
      obtain rfl : todo = [] := by
        rw [chunks, if_neg flush, if_pos negative] at cut
        exact (Except.ok.inj cut).symm
      exact ⟨rfl, fun positive => by omega, fun _ => rfl⟩
    · have all : ∀ chunk ∈ todo, ∀ record ∈ chunk, stores record = true :=
        fun chunk mem record within => stored positive record (mem_of_mem_chunks cut mem within)
      refine ⟨if_pos (writeChunks_all all).1, fun _ row mem => ?_, fun negative => by omega⟩
      obtain ⟨record, record_mem, from_row⟩ := (mapM_ok converted).1 row mem
      obtain ⟨chunk, chunk_mem, within⟩ := exists_mem_chunks positive.le cut record_mem
      exact ⟨record, from_row, (writeChunks_all all).2 chunk chunk_mem record within⟩

theorem processBatch_refused {redis : Redis} {db : Database} {batch : Batch}
    (refused : ¬Accepted cfg stores batch.rows) :
    (processBatch cfg stores worker redis db batch).1 = redis := by
  rcases startBatch_cases cfg batch with ⟨none, -⟩ | ⟨-, eq, -⟩ |
    ⟨-, flush, records, todo, converted, cut, eq⟩
  · exact absurd (.inl none) refused
  · rw [processBatch_idle eq]
  · rw [processBatch_chunks eq]
    have stored : ¬(0 < cfg.rowsPerFlush → ∀ record ∈ records, stores record = true) :=
      fun stored => refused (.inr ⟨flush, records, converted, stored⟩)
    push Not at stored
    obtain ⟨positive, record, mem, rejected⟩ := stored
    obtain ⟨chunk, chunk_mem, within⟩ := exists_mem_chunks positive.le cut mem
    have failed : (writeChunks cfg stores worker db todo).2 = false :=
      writeChunks_rejected chunk_mem within (by simpa using rejected)
    exact if_neg (by simp [failed])

/-! ## Exactly when -/

/-- No message of the read can harm another: none is writable, or none is unwritable
and there is a flush size to write them with.  With a negative size nothing is written, and
what is in the table is there from before. -/
def Isolates (cfg : Config) (stores : Tuple → Bool) (db : Database)
    (entries : List (MsgId × Fields)) : Prop :=
  (∀ e ∈ entries, entryRows cfg e.2 ≠ none → Unwritable cfg stores e.2) ∨
  (∀ e ∈ entries, ¬Unwritable cfg stores e.2) ∧
    (0 < cfg.rowsPerFlush ∨ decodedRows cfg entries = []) ∨
  cfg.rowsPerFlush < 0 ∧
    (∀ row ∈ decodedRows cfg entries, ∃ record,
      rowToTuple cfg.py cfg.modelClass.columns row = .ok record) ∧
    ∀ e ∈ entries, ¬Unwritable cfg stores e.2 →
      ∀ rows, entryRows cfg e.2 = some rows → ∀ row ∈ rows, InTable cfg db.table row

/-- The pending list once the malformed entries are acknowledged. -/
def cleared (cfg : Config) (redis : Redis) (entries : List (MsgId × Fields)) : Redis :=
  if (malformedIds cfg entries).isEmpty then redis else redis.xack (malformedIds cfg entries)

theorem mem_pel_cleared {redis : Redis} {entries : List (MsgId × Fields)} {id : MsgId} :
    id ∈ (cleared cfg redis entries).pel ↔ id ∈ redis.pel ∧ id ∉ malformedIds cfg entries := by
  unfold cleared
  split_ifs with none
  · simp [List.isEmpty_iff.mp none]
  · exact mem_pel_xack

theorem processEntries_eq (cfg : Config) (stores : Tuple → Bool) (worker : Nat) (redis : Redis)
    (db : Database) (entries : List (MsgId × Fields)) :
    processEntries cfg stores worker redis db entries =
      if (decodedIds cfg entries).isEmpty then (cleared cfg redis entries, db)
      else processBatch cfg stores worker (cleared cfg redis entries) db
        ⟨decodedIds cfg entries, decodedRows cfg entries⟩ := by
  simp only [processEntries, decodeEntries_eq, cleared]

theorem processBatch_pel {redis : Redis} {db : Database} {batch : Batch} {id : MsgId}
    (mem : id ∈ (processBatch cfg stores worker redis db batch).1.pel) : id ∈ redis.pel := by
  by_cases accepted : Accepted cfg stores batch.rows
  · rw [(processBatch_accepted accepted).1] at mem
    exact (mem_pel_xack.mp mem).1
  · rwa [processBatch_refused accepted] at mem

/-- An entry of a read decodes or it does not. -/
theorem Read.not_malformed {redis : Redis} (read : Read redis) {e : MsgId × Fields}
    (mem : e ∈ read.entries) {rows : List PyVal} (decodes : entryRows cfg e.2 = some rows) :
    e.1 ∉ malformedIds cfg read.entries := by
  intro malformed
  obtain ⟨fields, mem', none⟩ := mem_malformedIds.mp malformed
  have same : e = (e.1, fields) :=
    List.inj_on_of_nodup_map read.distinct mem mem' rfl
  rw [same] at decodes
  simp [none] at decodes

theorem served_malformed {redis : Redis} {db : Database} {entries : List (MsgId × Fields)}
    {e : MsgId × Fields} (mem : e ∈ entries) (none : entryRows cfg e.2 = none) :
    Served cfg (processEntries cfg stores worker redis db entries) e where
  committed rows decodes := by simp [none] at decodes
  acknowledged pending := by
    have malformed : e.1 ∈ malformedIds cfg entries := mem_malformedIds.mpr ⟨e.2, mem, none⟩
    rw [processEntries_eq] at pending
    split_ifs at pending
    · exact (mem_pel_cleared.mp pending).2 malformed
    · exact (mem_pel_cleared.mp (processBatch_pel pending)).2 malformed

/-- An entry that decodes goes with the batch. -/
theorem processEntries_decoded {redis : Redis} {db : Database}
    {entries : List (MsgId × Fields)} {e : MsgId × Fields} (mem : e ∈ entries)
    {rows : List PyVal} (decodes : entryRows cfg e.2 = some rows) :
    processEntries cfg stores worker redis db entries =
      processBatch cfg stores worker (cleared cfg redis entries) db
        ⟨decodedIds cfg entries, decodedRows cfg entries⟩ := by
  have here : e.1 ∈ decodedIds cfg entries := mem_decodedIds.mpr ⟨e.2, rows, mem, decodes⟩
  rw [processEntries_eq, if_neg]
  intro none
  simp [List.isEmpty_iff.mp none] at here

theorem accepted_of_served {redis : Redis} {db : Database} (read : Read redis)
    {e : MsgId × Fields} (mem : e ∈ read.entries) {rows : List PyVal}
    (decodes : entryRows cfg e.2 = some rows)
    (served : Served cfg (processEntries cfg stores worker redis db read.entries) e) :
    Accepted cfg stores (decodedRows cfg read.entries) := by
  by_contra refused
  apply served.acknowledged
  rw [processEntries_decoded mem decodes, processBatch_refused refused]
  exact mem_pel_cleared.mpr ⟨read.pending e mem, read.not_malformed mem decodes⟩

/-- An accepted batch serves the entries whose rows it writes or finds in the table. -/
theorem served_of_accepted {redis : Redis} {db : Database} {entries : List (MsgId × Fields)}
    (accepted : Accepted cfg stores (decodedRows cfg entries)) {e : MsgId × Fields}
    (mem : e ∈ entries)
    (present : ¬0 < cfg.rowsPerFlush → ∀ rows, entryRows cfg e.2 = some rows →
      rows = [] ∨ cfg.rowsPerFlush < 0 ∧ ∀ row ∈ rows, InTable cfg db.table row) :
    Served cfg (processEntries cfg stores worker redis db entries) e := by
  cases decodes : entryRows cfg e.2 with
  | none => exact served_malformed mem decodes
  | some rows =>
      rw [processEntries_decoded mem decodes]
      obtain ⟨acked, written, untouched⟩ := @processBatch_accepted cfg stores worker
        (cleared cfg redis entries) db ⟨decodedIds cfg entries, decodedRows cfg entries⟩ accepted
      constructor
      · intro rows' decodes' row row_mem
        obtain rfl : rows = rows' := Option.some.inj (decodes.symm.trans decodes')
        by_cases flush : 0 < cfg.rowsPerFlush
        · exact written flush row (mem_decodedRows.mpr ⟨e.1, e.2, rows, mem, decodes, row_mem⟩)
        · rcases present flush rows decodes with none | ⟨negative, here⟩
          · simp [none] at row_mem
          · rw [untouched negative]
            exact here row row_mem
      · intro pending
        rw [acked] at pending
        exact (mem_pel_xack.mp pending).2 (mem_decodedIds.mpr ⟨e.2, rows, mem, decodes⟩)

theorem isolates_of_served {redis : Redis} {db : Database} (read : Read redis)
    (all : ∀ e ∈ read.entries, ¬Unwritable cfg stores e.2 →
      Served cfg (processEntries cfg stores worker redis db read.entries) e) :
    Isolates cfg stores db read.entries := by
  by_cases lone : ∀ e ∈ read.entries, entryRows cfg e.2 ≠ none → Unwritable cfg stores e.2
  · exact .inl lone
  · push Not at lone
    obtain ⟨e, mem, decodes, writable⟩ := lone
    obtain ⟨rows, decodes⟩ := Option.ne_none_iff_exists'.mp decodes
    have accepted := accepted_of_served read mem decodes (all e mem writable)
    have within {e' : MsgId × Fields} (mem' : e' ∈ read.entries) {rows' : List PyVal}
        (decodes' : entryRows cfg e'.2 = some rows') {row : PyVal} (row_mem : row ∈ rows') :
        row ∈ decodedRows cfg read.entries :=
      mem_decodedRows.mpr ⟨e'.1, e'.2, rows', mem', decodes', row_mem⟩
    rcases accepted with none | ⟨flush, records, converted, stored⟩
    · refine .inr (.inl ⟨?_, .inr none⟩)
      rintro e' mem' ⟨rows', decodes', row, row_mem, -⟩
      simpa [none] using within mem' decodes' row_mem
    · rcases lt_or_gt_of_ne flush with negative | positive
      · refine .inr (.inr ⟨negative, ?_, ?_⟩)
        · intro row row_mem
          obtain ⟨record, -, from_row⟩ := (mapM_ok converted).1 row row_mem
          exact ⟨record, from_row⟩
        · intro e' mem' writable' rows' decodes'
          have committed := (all e' mem' writable').committed rows' decodes'
          rwa [processEntries_decoded mem' decodes',
            (processBatch_accepted (.inr ⟨flush, records, converted, stored⟩)).2.2 negative]
            at committed
      · refine .inr (.inl ⟨?_, .inl positive⟩)
        rintro e' mem' ⟨rows', decodes', row, row_mem, bad⟩
        obtain ⟨record, record_mem, from_row⟩ :=
          (mapM_ok converted).1 row (within mem' decodes' row_mem)
        simp [rowWritable, from_row, stored positive record record_mem] at bad

theorem served_of_isolates {redis : Redis} {db : Database} {entries : List (MsgId × Fields)}
    (isolates : Isolates cfg stores db entries) {e : MsgId × Fields} (mem : e ∈ entries)
    (writable : ¬Unwritable cfg stores e.2) :
    Served cfg (processEntries cfg stores worker redis db entries) e := by
  rcases isolates with lone | ⟨clean, size⟩ | ⟨negative, convert, present⟩
  · have none : entryRows cfg e.2 = none := by
      by_contra decodes
      exact writable (lone e mem decodes)
    exact served_malformed mem none
  · have each : ∀ row ∈ decodedRows cfg entries, rowWritable cfg stores row = true := by
      intro row row_mem
      obtain ⟨id, fields, rows, mem', decodes, within⟩ := mem_decodedRows.mp row_mem
      by_contra bad
      exact clean (id, fields) mem' ⟨rows, decodes, row, within, by simpa using bad⟩
    obtain ⟨records, converted, stored⟩ := records_of_writable each
    have accepted : Accepted cfg stores (decodedRows cfg entries) := by
      rcases size with positive | none
      · exact .inr ⟨by omega, records, converted, fun _ => stored⟩
      · exact .inl none
    refine served_of_accepted accepted mem fun flush rows decodes => .inl ?_
    have none := size.resolve_left flush
    refine List.eq_nil_iff_forall_not_mem.mpr fun row row_mem => ?_
    have : row ∈ decodedRows cfg entries :=
      mem_decodedRows.mpr ⟨e.1, e.2, rows, mem, decodes, row_mem⟩
    simp [none] at this
  · obtain ⟨records, converted⟩ := mapM_total convert
    have accepted : Accepted cfg stores (decodedRows cfg entries) :=
      .inr ⟨by omega, records, converted, fun positive => by omega⟩
    exact served_of_accepted accepted mem fun _ rows decodes =>
      .inr ⟨negative, present e mem writable rows decodes⟩

/-- **Every entry with writable rows is committed and acknowledged exactly when no
unwritable one shares its read.** -/
theorem poison_isolated_iff (cfg : Config) (stores : Tuple → Bool) (worker : Nat)
    (redis : Redis) (db : Database) (read : Read redis) :
    (∀ e ∈ read.entries, ¬Unwritable cfg stores e.2 →
      Served cfg (processEntries cfg stores worker redis db read.entries) e) ↔
    Isolates cfg stores db read.entries :=
  ⟨isolates_of_served read, fun isolates _ mem writable =>
    served_of_isolates isolates mem writable⟩

/-! ## A good and a bad message -/

/-- A row of `speedRow` whose UUID is malformed. -/
def garbledRow : PyVal :=
  .dict [("time", .str "2026-01-01T00:00:00Z"), ("locomotive_id", .str "locomotive-1"),
    ("sensor_type", .str "speed_actual"), ("value", .float 60)]

/-- The msgpack encoding of `{"rows": [garbledRow]}`. -/
def garbledPayload : Raw :=
  [0x81, 0xa4] ++ ascii "rows" ++ [0x91, 0x84] ++
    [0xa4] ++ ascii "time" ++ [0xb4] ++ ascii "2026-01-01T00:00:00Z" ++
    [0xad] ++ ascii "locomotive_id" ++ [0xac] ++ ascii "locomotive-1" ++
    [0xab] ++ ascii "sensor_type" ++ [0xac] ++ ascii "speed_actual" ++
    [0xa5] ++ ascii "value" ++ [0xcb, 0x40, 0x4e, 0, 0, 0, 0, 0, 0]

def garbledMessage : Fields := Dict.empty.set (.bytes "d") garbledPayload

/-- `speedConsumer`, whose decoder knows the garbled message too. -/
def garbledConsumer : Config :=
  { speedConsumer 5000 with
    wireDecode := fun raw =>
      if raw = garbledPayload then .ok (.dict [("rows", .list [garbledRow])])
      else (speedConsumer 5000).wireDecode raw }

/-- Both messages, read and pending. -/
def bothRead : Read ⟨[speedMessage, garbledMessage], 2, [0, 1], []⟩ where
  entries := [(0, speedMessage), (1, garbledMessage)]
  distinct := by decide
  pending := by decide

/-- The database takes every record, and still the good message is neither committed nor
acknowledged. -/
theorem good_message_lost :
    ¬Unwritable garbledConsumer (fun _ => true) speedMessage ∧
      ¬∀ e ∈ bothRead.entries, ¬Unwritable garbledConsumer (fun _ => true) e.2 →
        Served garbledConsumer (processEntries garbledConsumer (fun _ => true) 0
          ⟨[speedMessage, garbledMessage], 2, [0, 1], []⟩
          ⟨Dict.empty, List.replicate 3 [], []⟩ bothRead.entries) e := by
  have decoded : entryRows garbledConsumer speedMessage = some [speedRow] := by decide +kernel
  have writable : ¬Unwritable garbledConsumer (fun _ => true) speedMessage :=
    not_unwritable decoded (by decide +kernel)
  refine ⟨writable, fun all => ?_⟩
  have served := all (0, speedMessage) List.mem_cons_self writable
  have pending : (processEntries garbledConsumer (fun _ => true) 0
      ⟨[speedMessage, garbledMessage], 2, [0, 1], []⟩
      ⟨Dict.empty, List.replicate 3 [], []⟩ bothRead.entries).1.pel = [0, 1] := by
    decide +kernel
  apply served.acknowledged
  rw [pending]
  decide

end LocoTwin.DbWriter
