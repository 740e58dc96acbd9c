/-
# DbWriter.Durability -- an acknowledged message is in the table

`Inv` relates the four places a message can be in: the pending list, the queue, the
workers and the table.  A batch is `BatchOk` when it holds every row of its messages
and no other row; a batch is `Written` when every chunk of it has committed.

* both only get easier as the stream grows, as entries are delivered and as chunks
  commit (`BatchOk.mono`, `Written.mono`), so copies of one message in several batches
  do not disturb each other;
* `Inv.step` has one case per step;
* `consumer_durable` reads the guarantee off the invariant.  Its last link, from
  committed chunks to the rows of the batch, is where the sign of `rows_per_flush`
  counts: a negative one cuts no chunk at all (`unwritten_acknowledged`).
-/
import LocoTwin.DbWriter.StreamConsumer

namespace LocoTwin.DbWriter

open LocoTwin.Lib LocoTwin.Shared

set_option autoImplicit false

variable {cfg : Config}

/-! ## What a message holds -/

/-- A message without a `d` field, or whose `d` field does not decode to rows.  An empty
`b"d"` that the code passes over counts as the field where there is no other. -/
def Malformed (cfg : Config) (fields : Fields) : Prop :=
  (fields.get? (.bytes "d") = none ∧ fields.get? (.str "d") = none) ∨
    ∃ raw error, (rawField fields).or (fields.get? (.bytes "d")) = some raw ∧
      payloadRows cfg raw = .error error

/-- The message was delivered and its payload decodes to these rows. -/
def Redis.Decodes (cfg : Config) (redis : Redis) (id : MsgId) (rows : List PyVal) : Prop :=
  id < redis.delivered ∧ ∃ fields raw, redis.stream[id]? = some fields ∧
    rawField fields = some raw ∧ payloadRows cfg raw = .ok rows

def Redis.Poison (cfg : Config) (redis : Redis) (id : MsgId) : Prop :=
  ∃ fields, redis.stream[id]? = some fields ∧ Malformed cfg fields

/-- The batch holds the rows of its messages, all of them and no others. -/
structure BatchOk (cfg : Config) (redis : Redis) (batch : Batch) : Prop where
  covers : ∀ id ∈ batch.messageIds, ∃ rows, redis.Decodes cfg id rows ∧ rows ⊆ batch.rows
  origin : ∀ row ∈ batch.rows, ∃ id ∈ batch.messageIds, ∃ rows,
    redis.Decodes cfg id rows ∧ row ∈ rows

/-- All rows convert, and every chunk they are cut in has committed. -/
def Written (cfg : Config) (db : Database) (batch : Batch) : Prop :=
  batch.rows = [] ∨ ∃ records cs,
    batch.rows.mapM (rowToTuple cfg.py cfg.modelClass.columns) = .ok records ∧
    chunks cfg.rowsPerFlush records = .ok cs ∧ ∀ chunk ∈ cs, chunk ∈ db.committed

/-! ## Growth -/

/-- Entries are appended and delivered, never changed. -/
structure Redis.Grows (old new : Redis) : Prop where
  stream : old.stream <+: new.stream
  delivered : old.delivered ≤ new.delivered

theorem Redis.Grows.refl (redis : Redis) : redis.Grows redis :=
  ⟨List.prefix_rfl, Nat.le_refl _⟩

theorem Redis.Grows.getElem? {old new : Redis} (grows : old.Grows new) {id : MsgId}
    {fields : Fields} (found : old.stream[id]? = some fields) :
    new.stream[id]? = some fields := by
  obtain ⟨later, eq⟩ := grows.stream
  obtain ⟨within, rfl⟩ := List.getElem?_eq_some_iff.mp found
  rw [← eq, List.getElem?_append_left within, List.getElem?_eq_getElem within]

theorem Redis.Decodes.mono {old new : Redis} (grows : old.Grows new) {id : MsgId}
    {rows : List PyVal} (decodes : old.Decodes cfg id rows) : new.Decodes cfg id rows := by
  obtain ⟨within, fields, raw, found, rest⟩ := decodes
  exact ⟨within.trans_le grows.delivered, fields, raw, grows.getElem? found, rest⟩

theorem Redis.Poison.mono {old new : Redis} (grows : old.Grows new) {id : MsgId}
    (poison : old.Poison cfg id) : new.Poison cfg id := by
  obtain ⟨fields, found, malformed⟩ := poison
  exact ⟨fields, grows.getElem? found, malformed⟩

theorem BatchOk.mono {old new : Redis} (grows : old.Grows new) {batch : Batch}
    (ok : BatchOk cfg old batch) : BatchOk cfg new batch where
  covers id mem := by
    obtain ⟨rows, decodes, sub⟩ := ok.covers id mem
    exact ⟨rows, decodes.mono grows, sub⟩
  origin row mem := by
    obtain ⟨id, id_mem, rows, decodes, row_mem⟩ := ok.origin row mem
    exact ⟨id, id_mem, rows, decodes.mono grows, row_mem⟩

theorem Written.mono {old new : Database} (sub : old.committed ⊆ new.committed)
    {batch : Batch} (written : Written cfg old batch) : Written cfg new batch := by
  rcases written with none | ⟨records, cs, converted, cut, all⟩
  · exact .inl none
  · refine .inr ⟨records, cs, converted, cut, ?_⟩
    intro chunk mem
    exact sub (all chunk mem)

theorem grows_deliver (redis : Redis) (n : Nat) : redis.Grows (redis.deliver n) :=
  ⟨List.prefix_rfl, Nat.le_add_right _ _⟩

theorem grows_xack (redis : Redis) (ids : List MsgId) : redis.Grows (redis.xack ids) :=
  ⟨List.prefix_rfl, Nat.le_refl _⟩

/-! ## Decoding -/

/-- A message that gives no payload is malformed: it has no `d` field, or an empty one,
and the empty byte string does not decode. -/
theorem malformed_of_rawField (empty : ∃ error, cfg.wireDecode [] = .error error)
    {fields : Fields} (absent : rawField fields = none) : Malformed cfg fields := by
  obtain ⟨error, empty⟩ := empty
  unfold rawField at absent
  cases bytes : fields.get? (.bytes "d") with
  | none => exact .inl ⟨bytes, by simpa [bytes] using absent⟩
  | some raw =>
      cases raw with
      | nil =>
          refine .inr ⟨[], error, ?_, by simp [payloadRows, empty, Except.bind]⟩
          simp only [bytes] at absent
          simp [rawField, bytes, absent]
      | cons byte rest => simp [bytes] at absent

structure DecodedOk (cfg : Config) (redis : Redis) (decoded : Decoded) : Prop where
  batch : BatchOk cfg redis decoded.batch
  poison : ∀ id ∈ decoded.poisonIds, redis.Poison cfg id

/-- Entries of the stream decode to the rows of their messages. -/
theorem decodeEntries_ok (empty : ∃ error, cfg.wireDecode [] = .error error) {redis : Redis}
    {entries : List (MsgId × Fields)}
    (known : ∀ entry ∈ entries, entry.1 < redis.delivered ∧
      redis.stream[entry.1]? = some entry.2) :
    DecodedOk cfg redis (decodeEntries cfg entries) := by
  have decodes {id : MsgId} {fields : Fields} {rows : List PyVal} (entry : (id, fields) ∈ entries)
      (eq : entryRows cfg fields = some rows) : redis.Decodes cfg id rows := by
    obtain ⟨raw, field, payload⟩ := entryRows_eq_some.mp eq
    exact ⟨(known _ entry).1, fields, raw, (known _ entry).2, field, payload⟩
  rw [decodeEntries_eq]
  refine ⟨⟨?_, ?_⟩, ?_⟩
  · intro id mem
    obtain ⟨fields, rows, entry, eq⟩ := mem_decodedIds.mp mem
    refine ⟨rows, decodes entry eq, ?_⟩
    intro row here
    exact mem_decodedRows.mpr ⟨id, fields, rows, entry, eq, here⟩
  · intro row mem
    obtain ⟨id, fields, rows, entry, eq, here⟩ := mem_decodedRows.mp mem
    exact ⟨id, mem_decodedIds.mpr ⟨fields, rows, entry, eq⟩, rows, decodes entry eq, here⟩
  · intro id mem
    obtain ⟨fields, entry, none⟩ := mem_malformedIds.mp mem
    refine ⟨fields, (known _ entry).2, ?_⟩
    rcases entryRows_eq_none.mp none with absent | ⟨raw, error, field, payload⟩
    · exact malformed_of_rawField empty absent
    · exact .inr ⟨raw, error, by simp [field], payload⟩

/-- The entries of delivered ids are delivered entries of the stream. -/
theorem entries_known {redis : Redis} {ids : List MsgId}
    (within : ∀ id ∈ ids, id < redis.delivered) :
    ∀ entry ∈ redis.entries ids, entry.1 < redis.delivered ∧
      redis.stream[entry.1]? = some entry.2 := by
  intro entry mem
  obtain ⟨here, found⟩ := mem_entries.mp mem
  exact ⟨within entry.1 here, found⟩

/-! ## The invariant -/

def ReaderOk (cfg : Config) (redis : Redis) : Reader → Prop
  | .reading _ => True
  | .ackingPoison _ poisonIds batch =>
      (∀ id ∈ poisonIds, redis.Poison cfg id) ∧ BatchOk cfg redis batch
  | .putting _ batch => BatchOk cfg redis batch
  | .closing _ => True

/-- A worker that still writes has committed every chunk it is past. -/
def WorkerOk (cfg : Config) (redis : Redis) (db : Database) : Worker → Prop
  | .idle => True
  | .writing batch todo => BatchOk cfg redis batch ∧ ∃ records finished,
      batch.rows.mapM (rowToTuple cfg.py cfg.modelClass.columns) = .ok records ∧
      chunks cfg.rowsPerFlush records = .ok (finished ++ todo) ∧
      ∀ chunk ∈ finished, chunk ∈ db.committed
  | .acking batch => BatchOk cfg redis batch ∧ Written cfg db batch
  | .done => True

def Acknowledged (cfg : Config) (redis : Redis) (db : Database) (id : MsgId) : Prop :=
  redis.Poison cfg id ∨
    ∃ batch, BatchOk cfg redis batch ∧ id ∈ batch.messageIds ∧ Written cfg db batch

/-- A row of the table is the conversion of a row of a delivered message. -/
def Stored (cfg : Config) (redis : Redis) (record : Tuple) : Prop :=
  ∃ id rows row, redis.Decodes cfg id rows ∧ row ∈ rows ∧
    rowToTuple cfg.py cfg.modelClass.columns row = .ok record

structure Inv (cfg : Config) (s : State) : Prop where
  pel : ∀ id ∈ s.redis.pel, id < s.redis.delivered
  acked : ∀ id ∈ s.redis.acked, Acknowledged cfg s.redis s.db id
  reader : ReaderOk cfg s.redis s.proc.reader
  queue : ∀ batch, some batch ∈ s.proc.queue → BatchOk cfg s.redis batch
  workers : ∀ worker ∈ s.proc.workers, WorkerOk cfg s.redis s.db worker
  committed : ∀ chunk ∈ s.db.committed, ∀ record ∈ chunk,
    primaryKey cfg.modelClass.columns record ∈ s.db.table.keys
  table : ∀ key record, s.db.table.get? key = some record →
    key = primaryKey cfg.modelClass.columns record ∧ Stored cfg s.redis record

theorem ReaderOk.mono {old new : Redis} (grows : old.Grows new) {reader : Reader}
    (ok : ReaderOk cfg old reader) : ReaderOk cfg new reader := by
  cases reader with
  | reading mode => trivial
  | ackingPoison mode poisonIds batch =>
      exact ⟨fun id mem => (ok.1 id mem).mono grows, ok.2.mono grows⟩
  | putting mode batch => exact BatchOk.mono grows ok
  | closing sentinels => trivial

theorem WorkerOk.mono {old new : Redis} {db db' : Database} (grows : old.Grows new)
    (sub : db.committed ⊆ db'.committed) {worker : Worker} (ok : WorkerOk cfg old db worker) :
    WorkerOk cfg new db' worker := by
  cases worker with
  | idle => trivial
  | writing batch todo =>
      obtain ⟨batch_ok, records, finished, converted, cut, all⟩ := ok
      refine ⟨batch_ok.mono grows, records, finished, converted, cut, ?_⟩
      intro chunk mem
      exact sub (all chunk mem)
  | acking batch => exact ⟨ok.1.mono grows, ok.2.mono sub⟩
  | done => trivial

theorem Acknowledged.mono {old new : Redis} {db db' : Database} (grows : old.Grows new)
    (sub : db.committed ⊆ db'.committed) {id : MsgId} (ok : Acknowledged cfg old db id) :
    Acknowledged cfg new db' id := by
  rcases ok with poison | ⟨batch, batch_ok, mem, written⟩
  · exact .inl (poison.mono grows)
  · exact .inr ⟨batch, batch_ok.mono grows, mem, written.mono sub⟩

theorem Stored.mono {old new : Redis} (grows : old.Grows new) {record : Tuple}
    (stored : Stored cfg old record) : Stored cfg new record := by
  obtain ⟨id, rows, row, decodes, rest⟩ := stored
  exact ⟨id, rows, row, decodes.mono grows, rest⟩

/-! ## What a step can change -/

/-- Redis moves on, and acknowledges only what may be acknowledged. -/
theorem Inv.redis {s : State} (inv : Inv cfg s) {redis : Redis} (grows : s.redis.Grows redis)
    (pel : ∀ id ∈ redis.pel, id < redis.delivered)
    (acked : ∀ id ∈ redis.acked, id ∈ s.redis.acked ∨ Acknowledged cfg redis s.db id) :
    Inv cfg { s with redis } where
  pel := pel
  acked id mem := by
    rcases acked id mem with before | now
    · exact (inv.acked id before).mono grows (List.Subset.refl _)
    · exact now
  reader := inv.reader.mono grows
  queue batch mem := (inv.queue batch mem).mono grows
  workers worker mem := (inv.workers worker mem).mono grows (List.Subset.refl _)
  committed := inv.committed
  table key record found :=
    ⟨(inv.table key record found).1, (inv.table key record found).2.mono grows⟩

theorem Inv.deliver {s : State} (inv : Inv cfg s) (n : Nat) :
    Inv cfg { s with redis := s.redis.deliver n } := by
  apply inv.redis (grows_deliver _ n)
  · intro id mem
    show id < s.redis.delivered + n
    rcases List.mem_append.mp mem with before | now
    · exact Nat.lt_add_right n (inv.pel id before)
    · exact (List.mem_range'_1.mp now).2
  · intro id mem
    exact .inl mem

theorem Inv.xack {s : State} (inv : Inv cfg s) {ids : List MsgId}
    (allowed : ∀ id ∈ ids, Acknowledged cfg s.redis s.db id) :
    Inv cfg { s with redis := s.redis.xack ids } := by
  apply inv.redis (grows_xack _ ids)
  · intro id mem
    exact inv.pel id (mem_pel_xack.mp mem).1
  · intro id mem
    rcases List.mem_append.mp mem with before | now
    · exact .inl before
    · exact .inr ((allowed id now).mono (grows_xack _ ids) (List.Subset.refl _))

theorem Inv.setReader {s : State} (inv : Inv cfg s) {reader : Reader}
    (ok : ReaderOk cfg s.redis reader) : Inv cfg (s.setReader reader) :=
  { inv with reader := ok }

theorem Inv.setWorker {s : State} (inv : Inv cfg s) {i : Nat} {worker : Worker}
    (ok : WorkerOk cfg s.redis s.db worker) : Inv cfg (s.setWorker i worker) :=
  { inv with workers := State.forall_setWorker inv.workers ok }

theorem Inv.enqueue {s : State} (inv : Inv cfg s) {reader : Reader} {item : Option Batch}
    (reader_ok : ReaderOk cfg s.redis reader)
    (item_ok : ∀ batch, item = some batch → BatchOk cfg s.redis batch) :
    Inv cfg { s with proc := { s.proc with reader, queue := s.proc.queue ++ [item] } } :=
  { inv with
    reader := reader_ok
    queue := by
      intro batch mem
      rcases List.mem_append.mp mem with before | now
      · exact inv.queue batch before
      · exact item_ok batch (List.mem_singleton.mp now).symm }

theorem Inv.dequeue {s : State} (inv : Inv cfg s) {item : Option Batch}
    {rest : List (Option Batch)} (queue : s.proc.queue = item :: rest) :
    Inv cfg { s with proc := { s.proc with queue := rest } } :=
  { inv with
    queue := by
      intro batch mem
      exact inv.queue batch (queue ▸ List.mem_cons_of_mem _ mem) }

/-- One chunk commits. -/
theorem Inv.flush {s : State} (inv : Inv cfg s) (i : Nat) {chunk : List Tuple}
    (stored : ∀ record ∈ chunk, Stored cfg s.redis record) :
    Inv cfg { s with db := s.db.flush cfg i chunk } := by
  obtain ⟨kept, present, origin⟩ :=
    insertAll_spec cfg.modelClass.columns chunk s.db.table
  have sub : s.db.committed ⊆ (s.db.flush cfg i chunk).committed :=
    List.subset_append_left _ _
  exact
    { inv with
      acked := by
        intro id mem
        exact (inv.acked id mem).mono (.refl _) sub
      workers := by
        intro worker mem
        exact (inv.workers worker mem).mono (.refl _) sub
      committed := by
        intro chunk' chunk_mem record mem
        rcases List.mem_append.mp chunk_mem with before | now
        · obtain ⟨row, found⟩ := Dict.mem_keys.mp (inv.committed chunk' before record mem)
          exact Dict.mem_keys.mpr ⟨row, kept _ _ found⟩
        · obtain rfl := List.mem_singleton.mp now
          exact present record mem
      table := by
        intro key record found
        rcases origin key record found with before | ⟨mem, eq⟩
        · exact inv.table key record before
        · exact ⟨eq, stored record mem⟩ }

/-! ## Between two awaits -/

theorem afterPoison_ok {redis : Redis} (mode : Mode) {batch : Batch}
    (ok : BatchOk cfg redis batch) : ReaderOk cfg redis (afterPoison mode batch) := by
  unfold afterPoison
  split
  · trivial
  · exact ok

theorem afterDecode_ok {redis : Redis} (mode : Mode) {decoded : Decoded}
    (ok : DecodedOk cfg redis decoded) : ReaderOk cfg redis (afterDecode mode decoded) := by
  unfold afterDecode
  split
  · exact afterPoison_ok mode ok.batch
  · exact ⟨ok.poison, ok.batch⟩

theorem raised_ok (redis : Redis) (mode : Mode) : ReaderOk cfg redis (raised cfg mode) := by
  cases mode <;> trivial

/-- With the finished chunks committed the batch is being written, or it is written. -/
theorem afterChunk_ok {redis : Redis} {db : Database} {batch : Batch}
    (ok : BatchOk cfg redis batch) {records : List Tuple}
    (converted : batch.rows.mapM (rowToTuple cfg.py cfg.modelClass.columns) = .ok records)
    {finished todo : List (List Tuple)}
    (cut : chunks cfg.rowsPerFlush records = .ok (finished ++ todo))
    (all : ∀ chunk ∈ finished, chunk ∈ db.committed) :
    WorkerOk cfg redis db (afterChunk batch todo) := by
  cases todo with
  | nil => exact ⟨ok, .inr ⟨records, finished, converted, by simpa using cut, all⟩⟩
  | cons next rest => exact ⟨ok, records, finished, converted, cut, all⟩

theorem startBatch_ok {redis : Redis} {db : Database} {batch : Batch}
    (ok : BatchOk cfg redis batch) : WorkerOk cfg redis db (startBatch cfg batch) := by
  rcases startBatch_cases cfg batch with ⟨none, eq⟩ | ⟨-, eq, -⟩ |
    ⟨-, -, records, todo, converted, cut, eq⟩
  · rw [eq]
    exact ⟨ok, .inl none⟩
  · rw [eq]
    trivial
  · rw [eq]
    exact @afterChunk_ok cfg redis db batch ok records converted [] todo cut (by simp)

/-- A commit finishes the chunk. -/
theorem commit_ok {redis : Redis} {db : Database} {batch : Batch} {chunk : List Tuple}
    {todo : List (List Tuple)} {db' : Database}
    (ok : WorkerOk cfg redis db (.writing batch (chunk :: todo)))
    (committed : db'.committed = db.committed ++ [chunk]) :
    WorkerOk cfg redis db' (afterChunk batch todo) := by
  obtain ⟨batch_ok, records, finished, converted, cut, all⟩ := ok
  have cut' : chunks cfg.rowsPerFlush records = .ok ((finished ++ [chunk]) ++ todo) := by
    simpa using cut
  refine afterChunk_ok batch_ok converted cut' ?_
  intro c mem
  rw [committed]
  rcases List.mem_append.mp mem with before | now
  · exact List.mem_append_left _ (all c before)
  · exact List.mem_append_right _ now

/-- The records of a chunk of a batch come from delivered messages. -/
theorem WorkerOk.stored {redis : Redis} {db : Database} {batch : Batch} {chunk : List Tuple}
    {todo : List (List Tuple)} (ok : WorkerOk cfg redis db (.writing batch (chunk :: todo))) :
    ∀ record ∈ chunk, Stored cfg redis record := by
  obtain ⟨batch_ok, records, finished, converted, cut, -⟩ := ok
  intro record mem
  have in_records := mem_of_mem_chunks cut (by simp) mem
  obtain ⟨row, row_mem, eq⟩ := (mapM_ok converted).2 record in_records
  obtain ⟨id, -, rows, decodes, row_mem⟩ := batch_ok.origin row row_mem
  exact ⟨id, rows, row, decodes, row_mem, eq⟩

/-! ## Every run -/

theorem Inv.init {s : State} (start : (consumer cfg).init s) : Inv cfg s := by
  obtain ⟨-, pel, acked, table, committed, -, proc⟩ := start
  refine ⟨by simp [pel], by simp [acked], ?_, ?_, ?_, by simp [committed], ?_⟩
  · rw [proc]; trivial
  · simp [proc, Process.fresh]
  · rw [proc]
    exact Process.forall_fresh trivial
  · simp [table]

theorem Inv.step (empty : ∃ error, cfg.wireDecode [] = .error error) {s s' : State}
    {label : Label} (inv : Inv cfg s) (step : Step cfg s label s') : Inv cfg s' := by
  have working {i : Nat} {worker : Worker} (at_i : s.proc.workers[i]? = some worker) :
      WorkerOk cfg s.redis s.db worker := by
    apply inv.workers
    exact List.mem_of_getElem? at_i
  have acking {i : Nat} {batch : Batch} (at_i : s.proc.workers[i]? = some (.acking batch)) :
      ∀ id ∈ batch.messageIds, Acknowledged cfg s.redis s.db id := by
    intro id mem
    obtain ⟨ok, written⟩ := working at_i
    exact .inr ⟨batch, ok, mem, written⟩
  cases step with
  | produce fields =>
      exact inv.redis ⟨List.prefix_append _ _, Nat.le_refl _⟩ inv.pel fun id mem => .inl mem
  | drained reader none => exact inv.setReader trivial
  | readPending reader some =>
      have within : ∀ id ∈ s.redis.pel.take cfg.readerBatchSize, id < s.redis.delivered := by
        intro id mem
        exact inv.pel id (List.mem_of_mem_take mem)
      exact inv.setReader (afterDecode_ok _ (decodeEntries_ok empty (entries_known within)))
  | readNew n reader count available =>
      have within : ∀ id ∈ List.range' s.redis.delivered n,
          id < (s.redis.deliver n).delivered := by
        intro id mem
        exact (List.mem_range'_1.mp mem).2
      exact (inv.deliver n).setReader
        (afterDecode_ok _ (decodeEntries_ok empty (entries_known within)))
  | readFails mode n reader count available draining =>
      exact (inv.deliver n).setReader (raised_ok _ mode)
  | ackPoison mode poisonIds batch reader =>
      obtain ⟨poison, ok⟩ : ReaderOk cfg s.redis (.ackingPoison mode poisonIds batch) :=
        reader ▸ inv.reader
      have acked := inv.xack fun id mem => .inl (poison id mem)
      exact acked.setReader (afterPoison_ok mode (ok.mono (grows_xack _ _)))
  | ackPoisonFails mode poisonIds batch applied reader =>
      obtain ⟨poison, ok⟩ : ReaderOk cfg s.redis (.ackingPoison mode poisonIds batch) :=
        reader ▸ inv.reader
      cases applied with
      | true =>
          have acked := inv.xack fun id mem => .inl (poison id mem)
          exact acked.setReader (raised_ok _ mode)
      | false => exact inv.setReader (raised_ok _ mode)
  | put mode batch reader room =>
      have ok : ReaderOk cfg s.redis (.putting mode batch) := reader ▸ inv.reader
      exact inv.enqueue trivial fun batch' eq => Option.some.inj eq ▸ ok
  | stop sentinels reader => exact inv.setReader trivial
  | putSentinel sentinels reader room => exact inv.enqueue trivial (by simp)
  | get i batch rest worker queue =>
      exact (inv.dequeue queue).setWorker
        (startBatch_ok (inv.queue batch (queue ▸ List.mem_cons_self)))
  | getSentinel i rest worker queue => exact (inv.dequeue queue).setWorker trivial
  | commit i batch chunk todo lost worker =>
      refine (inv.flush i (working worker).stored).setWorker ?_
      cases lost with
      | true => trivial
      | false => exact commit_ok (working worker) rfl
  | rollback i batch todo worker => exact inv.setWorker trivial
  | ack i batch worker => exact (inv.xack (acking worker)).setWorker trivial
  | ackFails i batch applied worker =>
      cases applied with
      | true => exact (inv.xack (acking worker)).setWorker trivial
      | false => exact inv.setWorker trivial
  | cancelWorker i => exact inv.setWorker trivial
  | crash =>
      -- what survives is all in redis and the database
      exact
        { inv with
          reader := trivial
          queue := by simp [Process.fresh]
          workers := Process.forall_fresh trivial }

/-- What the consumer promises of the state it is in. -/
structure Durable (cfg : Config) (s : State) : Prop where
  /-- An acknowledged message is malformed, or all its rows are in the table. -/
  acknowledged : ∀ id ∈ s.redis.acked, ∃ fields, s.redis.stream[id]? = some fields ∧
    (Malformed cfg fields ∨ ∃ raw rows, rawField fields = some raw ∧
      payloadRows cfg raw = .ok rows ∧ ∀ row ∈ rows, ∃ record,
        rowToTuple cfg.py cfg.modelClass.columns row = .ok record ∧
        primaryKey cfg.modelClass.columns record ∈ s.db.table.keys)
  /-- It was acknowledged alone or with a batch all of whose chunks have committed. -/
  committed : ∀ id ∈ s.redis.acked, Acknowledged cfg s.redis s.db id
  /-- A worker that is about to acknowledge has committed every chunk of its batch. -/
  acking : ∀ batch, .acking batch ∈ s.proc.workers →
    BatchOk cfg s.redis batch ∧ Written cfg s.db batch
  /-- The table holds converted rows of delivered messages only. -/
  stored : ∀ e ∈ s.db.table.entries, Stored cfg s.redis e.2
  unique : (s.db.table.entries.map fun e => primaryKey cfg.modelClass.columns e.2).Nodup

/-- The rows of a written batch are in the table. -/
theorem Inv.written {s : State} (inv : Inv cfg s) (flush : 0 ≤ cfg.rowsPerFlush) {batch : Batch}
    (written : Written cfg s.db batch) : ∀ row ∈ batch.rows, ∃ record,
      rowToTuple cfg.py cfg.modelClass.columns row = .ok record ∧
      primaryKey cfg.modelClass.columns record ∈ s.db.table.keys := by
  intro row mem
  rcases written with none | ⟨records, cs, converted, cut, all⟩
  · simp [none] at mem
  · obtain ⟨record, record_mem, eq⟩ := (mapM_ok converted).1 row mem
    obtain ⟨chunk, chunk_mem, in_chunk⟩ := exists_mem_chunks flush cut record_mem
    exact ⟨record, eq, inv.committed chunk (all chunk chunk_mem) record in_chunk⟩

theorem Inv.durable {s : State} (inv : Inv cfg s) (flush : 0 ≤ cfg.rowsPerFlush) :
    Durable cfg s where
  acknowledged id mem := by
    rcases inv.acked id mem with ⟨fields, found, malformed⟩ | ⟨batch, ok, id_mem, written⟩
    · exact ⟨fields, found, .inl malformed⟩
    · obtain ⟨rows, ⟨-, fields, raw, found, field, payload⟩, sub⟩ := ok.covers id id_mem
      refine ⟨fields, found, .inr ⟨raw, rows, field, payload, ?_⟩⟩
      intro row row_mem
      exact inv.written flush written row (sub row_mem)
  committed := inv.acked
  acking batch mem := inv.workers _ mem
  stored e mem := (inv.table e.1 e.2 (Dict.get?_eq_some.mpr mem)).2
  unique := by
    have keys : (s.db.table.entries.map fun e => primaryKey cfg.modelClass.columns e.2) =
        s.db.table.keys := by
      apply List.map_congr_left
      intro e mem
      exact (inv.table e.1 e.2 (Dict.get?_eq_some.mpr mem)).1.symm
    rw [keys]
    exact s.db.table.nodup_keys

/-- **Durability.**  In every state that a consumer with a flush size that is not negative
can reach, through any failures, crashes and restarts. -/
theorem consumer_durable (empty : ∃ error, cfg.wireDecode [] = .error error)
    (flush : 0 ≤ cfg.rowsPerFlush) {s : State} (reach : (consumer cfg).Reachable s) :
    Durable cfg s := by
  have inv : Inv cfg s := by
    apply reach.invariant
    · intro s start
      exact .init start
    · intro s label s' inv step
      exact inv.step empty step
  exact inv.durable flush

/-! ## One message -/

/-- The characters of an ASCII string, as bytes. -/
def ascii (s : String) : Raw := s.toList.map fun c => UInt8.ofNat c.toNat

/-- One telemetry row: a speed of 60 km/h, without a position. -/
def speedRow : PyVal :=
  .dict
    [ ("time", .str "2026-01-01T00:00:00Z"),
      ("locomotive_id", .str "00000000-0000-0000-0000-000000000001"),
      ("locomotive_type", .str "TE33A"), ("sensor_type", .str "speed_actual"),
      ("value", .float 60), ("filtered_value", .float 60), ("unit", .str "km/h"),
      ("sample_rate_hz", .float 1), ("latitude", .none), ("longitude", .none) ]

/-- The msgpack encoding of `{"rows": [speedRow]}`. -/
def speedPayload : Raw :=
  [0x81, 0xa4] ++ ascii "rows" ++ [0x91, 0x8a] ++
    [0xa4] ++ ascii "time" ++ [0xb4] ++ ascii "2026-01-01T00:00:00Z" ++
    [0xad] ++ ascii "locomotive_id" ++
    [0xd9, 0x24] ++ ascii "00000000-0000-0000-0000-000000000001" ++
    [0xaf] ++ ascii "locomotive_type" ++ [0xa5] ++ ascii "TE33A" ++
    [0xab] ++ ascii "sensor_type" ++ [0xac] ++ ascii "speed_actual" ++
    [0xa5] ++ ascii "value" ++ [0xcb, 0x40, 0x4e, 0, 0, 0, 0, 0, 0] ++
    [0xae] ++ ascii "filtered_value" ++ [0xcb, 0x40, 0x4e, 0, 0, 0, 0, 0, 0] ++
    [0xa4] ++ ascii "unit" ++ [0xa4] ++ ascii "km/h" ++
    [0xae] ++ ascii "sample_rate_hz" ++ [0xcb, 0x3f, 0xf0, 0, 0, 0, 0, 0, 0] ++
    [0xa8] ++ ascii "latitude" ++ [0xc0] ++ [0xa9] ++ ascii "longitude" ++ [0xc0]

def speedMessage : Fields := Dict.empty.set (.bytes "d") speedPayload

/-- The telemetry consumer, with a decoder and converters that know one message. -/
def speedConsumer (rowsPerFlush : Int) : Config where
  modelClass := telemetryRecord
  py :=
    { fromisoformat := fun v =>
        if v = .str "2026-01-01T00:00:00Z" then .ok 1767225600000000
        else .error { kind := "ValueError", text := "Invalid isoformat string" }
      uuid := fun v =>
        if v = .str "00000000-0000-0000-0000-000000000001" then .ok 1
        else .error { kind := "ValueError", text := "badly formed hexadecimal UUID string" }
      dumps := fun _ => .error { kind := "TypeError", text := "not JSON serializable" } }
  wireDecode raw :=
    if raw = speedPayload then .ok (.dict [("rows", .list [speedRow])])
    else .error { kind := "MsgpackDecodeError", text := "invalid" }
  workerCount := 3
  readerBatchSize := 50
  rowsPerFlush
  queueMaxsize := 4

def speedRecord : Tuple :=
  [ .datetime 1767225600000000, .uuid 1, .value (.str "TE33A"), .value (.str "speed_actual"),
    .value (.float 60), .value (.float 60), .value (.str "km/h"), .value (.float 1),
    .value .none, .value .none ]

def speedBatch : Batch := ⟨[0], [speedRow]⟩

theorem payloadRows_speed (n : Int) :
    payloadRows (speedConsumer n) speedPayload = .ok [speedRow] := by
  simp [payloadRows, speedConsumer, Except.bind, PyVal.get, PyVal.truthy, PyVal.elements]

theorem rawField_speed : rawField speedMessage = some speedPayload := by decide +kernel

/-- Published, read and taken by a worker. -/
theorem speed_taken (n : Int) : ∃ s, (consumer (speedConsumer n)).Reachable s ∧
    s.redis = ⟨[speedMessage], 1, [0], []⟩ ∧ s.db = ⟨Dict.empty, List.replicate 3 [], []⟩ ∧
    s.proc.workers[0]? = some (startBatch (speedConsumer n) speedBatch) := by
  let start : State :=
    ⟨⟨[], 0, [], []⟩, ⟨Dict.empty, List.replicate 3 [], []⟩, .fresh (speedConsumer n)⟩
  have initial : (consumer (speedConsumer n)).Reachable start :=
    .init ⟨rfl, rfl, rfl, rfl, rfl, rfl, rfl⟩
  have published := initial.step (Step.produce _ speedMessage)
  have live := published.step (Step.drained _ rfl rfl)
  have count : 1 ≤ (speedConsumer n).readerBatchSize := by
    show 1 ≤ 50
    decide
  have available : 0 + 1 ≤ [speedMessage].length := by decide
  have read := live.step (Step.readNew _ 1 rfl count available)
  have decoded : decodeEntries (speedConsumer n) [(0, speedMessage)] = ⟨speedBatch, []⟩ := by
    simp [decodeEntries, decodeEntry, rawField_speed, payloadRows_speed, speedBatch]
  have room : (0 : Int) < (speedConsumer n).queueMaxsize := by
    show (0 : Int) < 4
    decide
  have queued := read.step (Step.put _ .live speedBatch
    (by simp [State.setReader, Redis.entries, Redis.deliver, start, decoded, afterDecode,
          afterPoison, speedBatch]) (.inr room))
  have taken := queued.step (Step.get _ 0 speedBatch [] rfl rfl)
  exact ⟨_, taken, rfl, rfl, rfl⟩

theorem empty_speed (n : Int) : ∃ error, (speedConsumer n).wireDecode [] = .error error :=
  ⟨_, by simp only [speedConsumer]; exact if_neg (by decide)⟩

/-- Written and acknowledged, in one flush. -/
theorem consumer_durable_speed : ∃ s, (consumer (speedConsumer 5000)).Reachable s ∧
    s.redis.acked = [0] ∧ s.db.committed = [[speedRecord]] ∧ Durable (speedConsumer 5000) s := by
  obtain ⟨s, reach, redis, db, worker⟩ := speed_taken 5000
  have started : startBatch (speedConsumer 5000) speedBatch =
      .writing speedBatch [[speedRecord]] := by decide +kernel
  rw [started] at worker
  have committed := reach.step (Step.commit s 0 speedBatch [speedRecord] [] false worker)
  have first : 0 < s.proc.workers.length := (List.getElem?_eq_some_iff.mp worker).1
  have acked := committed.step (Step.ack _ 0 speedBatch (by
    simp [State.setWorker, afterChunk, first]))
  refine ⟨_, acked, ?_, ?_, consumer_durable (empty_speed 5000) (by decide) acked⟩
  · simp [State.setWorker, Redis.xack, redis, speedBatch]
  · simp [State.setWorker, Database.flush, db]

/-- With a negative flush size the message is acknowledged and nothing is written: `range`
counts up to nothing. -/
theorem unwritten_acknowledged : ∃ s, (consumer (speedConsumer (-1))).Reachable s ∧
    s.redis.acked = [0] ∧ s.db.table = Dict.empty ∧ ¬ Durable (speedConsumer (-1)) s := by
  obtain ⟨s, reach, redis, db, worker⟩ := speed_taken (-1)
  have started : startBatch (speedConsumer (-1)) speedBatch = .acking speedBatch := by
    decide +kernel
  rw [started] at worker
  have acked := reach.step (Step.ack s 0 speedBatch worker)
  refine ⟨_, acked, by simp [State.setWorker, Redis.xack, redis, speedBatch], congrArg _ db,
    fun durable => ?_⟩
  obtain ⟨fields, found, guarantee⟩ := durable.acknowledged 0
    (by simp [State.setWorker, Redis.xack, redis, speedBatch])
  obtain rfl : speedMessage = fields := by
    simpa [State.setWorker, Redis.xack, redis] using found
  rcases guarantee with (⟨absent, -⟩ | ⟨raw, error, field, payload⟩) |
    ⟨raw, rows, field, payload, written⟩
  · revert absent; decide +kernel
  · simp only [rawField_speed, Option.some_or, Option.some.injEq] at field
    subst field
    simp [payloadRows_speed] at payload
  · simp only [rawField_speed, Option.some.injEq] at field
    subst field
    obtain rfl : [speedRow] = rows := by simpa [payloadRows_speed] using payload
    obtain ⟨record, -, present⟩ := written speedRow (by simp)
    have gone : primaryKey telemetryRecord.columns record ∈ s.db.table.keys := present
    simp [db, Dict.empty, Dict.keys] at gone

end LocoTwin.DbWriter
