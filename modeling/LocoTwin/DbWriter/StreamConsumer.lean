/-
# DbWriter.StreamConsumer -- one reader, N workers, a bounded queue

The state has three parts with different lifetimes.  `Redis` (the stream, the
consumer group and its pending list) and `Database` (target and staging tables)
survive a crash; `Process` (reader, queue, workers) is lost with it, and the next
start begins by replaying the pending list.

`Step` interleaves at awaits.  Every call that leaves the process can fail, before
or after it took effect: a read whose answer is lost has delivered its entries, an
`XACK` or a commit that raises may have been applied.  The computations between two
awaits are functions (`decodeEntries`, `startBatch`, `afterChunk`); `decodeEntries_eq`
says what the decoding loop makes of any entries.

`Redis.acked` and `Database.committed` only record what was done: the ids that were
acknowledged, and the chunks whose transaction committed.
-/
import LocoTwin.DbWriter.Rows
import LocoTwin.Lib.Transition

namespace LocoTwin.DbWriter

open LocoTwin.Lib LocoTwin.Shared

set_option autoImplicit false

/-! ## Stream entries -/

abbrev Raw := List UInt8

/-- A field name, as `bytes` or as `str`. -/
inductive FieldName where
  | bytes (name : String)
  | str (name : String)
  deriving DecidableEq, Repr

abbrev Fields := Dict FieldName Raw

/-- The position of an entry in its stream. -/
abbrev MsgId := Nat

/-- What a consumer is built with; `wireDecode` is the decoder of the wire format. -/
structure Config where
  modelClass : ModelClass
  py : Stdlib
  wireDecode : Raw → Except PyError PyVal
  workerCount : Nat
  readerBatchSize : Nat
  rowsPerFlush : Int
  queueMaxsize : Int

/-- `fields.get(b"d") or fields.get("d")` -/
def rawField (fields : Fields) : Option Raw :=
  match fields.get? (.bytes "d") with
  | some (byte :: rest) => some (byte :: rest)
  | _ => fields.get? (.str "d")

/-- The rows a payload extends the batch with. -/
def payloadRows (cfg : Config) (raw : Raw) : Except PyError (List PyVal) :=
  (cfg.wireDecode raw).bind fun payload =>
    (payload.get "rows").bind fun rows =>
      (if rows.truthy then rows else .list []).elements

structure Batch where
  messageIds : List MsgId
  rows : List PyVal
  deriving DecidableEq

/-- The lists the decoding loop fills. -/
structure Decoded where
  batch : Batch
  poisonIds : List MsgId
  deriving DecidableEq

/-- The body of the decoding loop. -/
def decodeEntry (cfg : Config) (acc : Decoded) (entry : MsgId × Fields) : Decoded :=
  match rawField entry.2 with
  | none => { acc with poisonIds := acc.poisonIds ++ [entry.1] }
  | some raw =>
      match payloadRows cfg raw with
      | .error _ => { acc with poisonIds := acc.poisonIds ++ [entry.1] }
      | .ok rows =>
          { acc with batch :=
            { messageIds := acc.batch.messageIds ++ [entry.1], rows := acc.batch.rows ++ rows } }

def decodeEntries (cfg : Config) (entries : List (MsgId × Fields)) : Decoded :=
  entries.foldl (decodeEntry cfg) ⟨⟨[], []⟩, []⟩

/-! ## What the decoding loop yields -/

/-- The rows of a message, unless it is malformed. -/
def entryRows (cfg : Config) (fields : Fields) : Option (List PyVal) :=
  match rawField fields with
  | none => none
  | some raw =>
      match payloadRows cfg raw with
      | .error _ => none
      | .ok rows => some rows

section

variable {cfg : Config}

theorem entryRows_eq_some {fields : Fields} {rows : List PyVal} :
    entryRows cfg fields = some rows ↔
      ∃ raw, rawField fields = some raw ∧ payloadRows cfg raw = .ok rows := by
  unfold entryRows
  cases rawField fields with
  | none => simp
  | some raw => cases payload : payloadRows cfg raw <;> simp [payload]

theorem entryRows_eq_none {fields : Fields} : entryRows cfg fields = none ↔
    rawField fields = none ∨
      ∃ raw error, rawField fields = some raw ∧ payloadRows cfg raw = .error error := by
  unfold entryRows
  cases rawField fields with
  | none => simp
  | some raw => cases payload : payloadRows cfg raw <;> simp [payload]

/-- The ids of the messages that decode, and of those that do not. -/
def decodedIds (cfg : Config) (entries : List (MsgId × Fields)) : List MsgId :=
  (entries.filter fun e => (entryRows cfg e.2).isSome).map Prod.fst

def malformedIds (cfg : Config) (entries : List (MsgId × Fields)) : List MsgId :=
  (entries.filter fun e => (entryRows cfg e.2).isNone).map Prod.fst

def decodedRows (cfg : Config) (entries : List (MsgId × Fields)) : List PyVal :=
  entries.flatMap fun e => (entryRows cfg e.2).getD []

theorem mem_decodedIds {entries : List (MsgId × Fields)} {id : MsgId} :
    id ∈ decodedIds cfg entries ↔
      ∃ fields rows, (id, fields) ∈ entries ∧ entryRows cfg fields = some rows := by
  simp [decodedIds, Option.isSome_iff_exists]

theorem mem_malformedIds {entries : List (MsgId × Fields)} {id : MsgId} :
    id ∈ malformedIds cfg entries ↔
      ∃ fields, (id, fields) ∈ entries ∧ entryRows cfg fields = none := by
  simp [malformedIds]

theorem mem_decodedRows {entries : List (MsgId × Fields)} {row : PyVal} :
    row ∈ decodedRows cfg entries ↔
      ∃ id fields rows, (id, fields) ∈ entries ∧ entryRows cfg fields = some rows ∧
        row ∈ rows := by
  simp only [decodedRows, List.mem_flatMap, Prod.exists]
  constructor
  · rintro ⟨id, fields, mem, here⟩
    cases found : entryRows cfg fields with
    | none => simp [found] at here
    | some rows => exact ⟨id, fields, rows, mem, found, by simpa [found] using here⟩
  · rintro ⟨id, fields, rows, mem, found, here⟩
    exact ⟨id, fields, mem, by simpa [found] using here⟩

theorem decodeEntry_eq (acc : Decoded) (entry : MsgId × Fields) :
    decodeEntry cfg acc entry =
      match entryRows cfg entry.2 with
      | none => { acc with poisonIds := acc.poisonIds ++ [entry.1] }
      | some rows =>
          { acc with batch := ⟨acc.batch.messageIds ++ [entry.1], acc.batch.rows ++ rows⟩ } := by
  unfold decodeEntry entryRows
  cases rawField entry.2 with
  | none => rfl
  | some raw =>
      simp only
      cases payloadRows cfg raw <;> rfl

/-- The loop sorts the entries by whether they decode, in their order. -/
theorem decodeEntries_eq (entries : List (MsgId × Fields)) :
    decodeEntries cfg entries =
      ⟨⟨decodedIds cfg entries, decodedRows cfg entries⟩, malformedIds cfg entries⟩ := by
  suffices grown : ∀ acc : Decoded, entries.foldl (decodeEntry cfg) acc =
      ⟨⟨acc.batch.messageIds ++ decodedIds cfg entries,
        acc.batch.rows ++ decodedRows cfg entries⟩,
        acc.poisonIds ++ malformedIds cfg entries⟩ by
    rw [decodeEntries, grown]
    simp
  induction entries with
  | nil =>
      intro acc
      simp [decodedIds, decodedRows, malformedIds]
  | cons entry rest ih =>
      intro acc
      rw [List.foldl_cons, ih, decodeEntry_eq]
      cases found : entryRows cfg entry.2 with
      | none => simp [decodedIds, decodedRows, malformedIds, found]
      | some rows => simp [decodedIds, decodedRows, malformedIds, found]

end

/-! ## State -/

structure Redis where
  stream : List Fields
  /-- Entries before this position have been delivered to the group. -/
  delivered : Nat
  pel : List MsgId
  acked : List MsgId

structure Database where
  table : Table
  staging : List (List Tuple)
  committed : List (List Tuple)

inductive Mode where
  | draining
  | live
  deriving DecidableEq, Repr

/-- Where the reader task, and `start` after it, is waiting. -/
inductive Reader where
  | reading (mode : Mode)
  | ackingPoison (mode : Mode) (poisonIds : List MsgId) (batch : Batch)
  | putting (mode : Mode) (batch : Batch)
  | closing (sentinels : Nat)
  deriving DecidableEq

/-- Where a worker task is waiting. -/
inductive Worker where
  | idle
  | writing (batch : Batch) (todo : List (List Tuple))
  | acking (batch : Batch)
  | done
  deriving DecidableEq

structure Process where
  reader : Reader
  queue : List (Option Batch)
  workers : List Worker

structure State where
  redis : Redis
  db : Database
  proc : Process

/-- A process that has just been started. -/
def Process.fresh (cfg : Config) : Process where
  reader := .reading .draining
  queue := []
  workers := List.replicate cfg.workerCount .idle

/-! ## Redis and the database -/

/-- The stream's entries with the given ids. -/
def Redis.entries (redis : Redis) (ids : List MsgId) : List (MsgId × Fields) :=
  ids.filterMap fun id => redis.stream[id]?.map fun fields => (id, fields)

theorem mem_entries {redis : Redis} {ids : List MsgId} {id : MsgId} {fields : Fields} :
    (id, fields) ∈ redis.entries ids ↔ id ∈ ids ∧ redis.stream[id]? = some fields := by
  simp only [Redis.entries, List.mem_filterMap, Option.map_eq_some_iff, Prod.mk.injEq]
  constructor
  · rintro ⟨id', mem, fields', found, rfl, rfl⟩
    exact ⟨mem, found⟩
  · rintro ⟨mem, found⟩
    exact ⟨id, mem, fields, found, rfl, rfl⟩

/-- `XREADGROUP … >` hands out the next `n` entries. -/
def Redis.deliver (redis : Redis) (n : Nat) : Redis :=
  { redis with
    delivered := redis.delivered + n
    pel := redis.pel ++ List.range' redis.delivered n }

def Redis.xack (redis : Redis) (ids : List MsgId) : Redis :=
  { redis with
    pel := redis.pel.filter fun id => !ids.contains id
    acked := redis.acked ++ ids }

theorem mem_pel_xack {redis : Redis} {ids : List MsgId} {id : MsgId} :
    id ∈ (redis.xack ids).pel ↔ id ∈ redis.pel ∧ id ∉ ids := by
  simp [Redis.xack]

/-- The transaction of one chunk: truncate the staging table, copy the chunk into it
and insert what it holds into the target table. -/
def Database.flush (cfg : Config) (db : Database) (worker : Nat) (chunk : List Tuple) : Database :=
  let truncated : List Tuple := []
  let staging := truncated ++ chunk
  { table := insertAll cfg.modelClass.columns db.table staging
    staging := db.staging.set worker staging
    committed := db.committed ++ [chunk] }

/-! ## Between two awaits -/

/-- Where the reader goes once the malformed entries are dealt with. -/
def afterPoison (mode : Mode) (batch : Batch) : Reader :=
  if batch.messageIds.isEmpty then .reading mode else .putting mode batch

def afterDecode (mode : Mode) (decoded : Decoded) : Reader :=
  if decoded.poisonIds.isEmpty then afterPoison mode decoded.batch
  else .ackingPoison mode decoded.poisonIds decoded.batch

/-- An error is logged in the live loop; while draining it ends the reader. -/
def raised (cfg : Config) : Mode → Reader
  | .draining => .closing cfg.workerCount
  | .live => .reading .live

/-- A worker that has taken a batch: convert all its rows, then cut them in chunks. -/
def startBatch (cfg : Config) (batch : Batch) : Worker :=
  if batch.rows.isEmpty then .acking batch
  else
    match batch.rows.mapM (rowToTuple cfg.py cfg.modelClass.columns) with
    | .error _ => .idle
    | .ok records =>
        match chunks cfg.rowsPerFlush records with
        | .error _ => .idle
        | .ok [] => .acking batch
        | .ok todo => .writing batch todo

def afterChunk (batch : Batch) : List (List Tuple) → Worker
  | [] => .acking batch
  | todo => .writing batch todo

/-- What `_write_batch` cuts the rows into, where it gets as far. -/
theorem startBatch_cases (cfg : Config) (batch : Batch) :
    batch.rows = [] ∧ startBatch cfg batch = .acking batch ∨
    batch.rows ≠ [] ∧ startBatch cfg batch = .idle ∧
      ((∃ error, batch.rows.mapM (rowToTuple cfg.py cfg.modelClass.columns) = .error error) ∨
        cfg.rowsPerFlush = 0) ∨
    batch.rows ≠ [] ∧ cfg.rowsPerFlush ≠ 0 ∧ ∃ records todo,
      batch.rows.mapM (rowToTuple cfg.py cfg.modelClass.columns) = .ok records ∧
      chunks cfg.rowsPerFlush records = .ok todo ∧
      startBatch cfg batch = afterChunk batch todo := by
  unfold startBatch
  by_cases none : batch.rows = []
  · exact .inl ⟨none, by simp [none]⟩
  · rw [if_neg (by simpa using none)]
    right
    cases converted : batch.rows.mapM (rowToTuple cfg.py cfg.modelClass.columns) with
    | error e => exact .inl ⟨none, rfl, .inl ⟨e, rfl⟩⟩
    | ok records =>
        by_cases zero : cfg.rowsPerFlush = 0
        · exact .inl ⟨none, by simp [chunks, zero], .inr zero⟩
        · right
          refine ⟨none, zero, records, ?_⟩
          cases cut : chunks cfg.rowsPerFlush records with
          | error e =>
              unfold chunks at cut
              rw [if_neg zero] at cut
              split_ifs at cut
          | ok todo =>
              refine ⟨todo, rfl, rfl, ?_⟩
              cases todo <;> simp [cut, afterChunk]

/-- `asyncio.Queue.full` is false, a size that is not positive being no bound. -/
def hasRoom (cfg : Config) (queue : List (Option Batch)) : Prop :=
  cfg.queueMaxsize ≤ 0 ∨ (queue.length : Int) < cfg.queueMaxsize

instance (cfg : Config) (queue : List (Option Batch)) : Decidable (hasRoom cfg queue) :=
  inferInstanceAs (Decidable (_ ∨ _))

def State.setReader (s : State) (reader : Reader) : State :=
  { s with proc := { s.proc with reader } }

def State.setWorker (s : State) (i : Nat) (worker : Worker) : State :=
  { s with proc := { s.proc with workers := s.proc.workers.set i worker } }

/-- What holds of all workers is asked of the new one only. -/
theorem State.forall_setWorker {P : Worker → Prop} {s : State} {i : Nat} {worker : Worker}
    (all : ∀ w ∈ s.proc.workers, P w) (here : P worker) :
    ∀ w ∈ (s.setWorker i worker).proc.workers, P w := by
  intro w mem
  rcases List.mem_or_eq_of_mem_set mem with before | rfl
  · exact all w before
  · exact here

theorem Process.forall_fresh {P : Worker → Prop} {cfg : Config} (idle : P .idle) :
    ∀ w ∈ (Process.fresh cfg).workers, P w := by
  intro w mem
  rw [List.eq_of_mem_replicate mem]
  exact idle

/-! ## Steps -/

inductive Label where
  | producer
  | reader
  | worker (i : Nat)
  | crash
  deriving DecidableEq, Repr

inductive Step (cfg : Config) : State → Label → State → Prop where
  /-- Anyone appends to the stream. -/
  | produce (s : State) (fields : Fields) :
      Step cfg s .producer
        { s with redis := { s.redis with stream := s.redis.stream ++ [fields] } }
  /-- The pending list is empty: the drain is over. -/
  | drained (s : State) : s.proc.reader = .reading .draining →
      s.redis.pel.take cfg.readerBatchSize = [] →
      Step cfg s .reader (s.setReader (.reading .live))
  | readPending (s : State) : s.proc.reader = .reading .draining →
      s.redis.pel.take cfg.readerBatchSize ≠ [] →
      Step cfg s .reader (s.setReader (afterDecode .draining
        (decodeEntries cfg (s.redis.entries (s.redis.pel.take cfg.readerBatchSize)))))
  | readNew (s : State) (n : Nat) : s.proc.reader = .reading .live →
      n ≤ cfg.readerBatchSize → s.redis.delivered + n ≤ s.redis.stream.length →
      Step cfg s .reader ({ s with redis := s.redis.deliver n }.setReader (afterDecode .live
        (decodeEntries cfg (s.redis.entries (List.range' s.redis.delivered n)))))
  /-- A read fails; it may have delivered entries all the same. -/
  | readFails (s : State) (mode : Mode) (n : Nat) : s.proc.reader = .reading mode →
      n ≤ cfg.readerBatchSize → s.redis.delivered + n ≤ s.redis.stream.length →
      (mode = .draining → n = 0) →
      Step cfg s .reader ({ s with redis := s.redis.deliver n }.setReader (raised cfg mode))
  | ackPoison (s : State) (mode : Mode) (poisonIds : List MsgId) (batch : Batch) :
      s.proc.reader = .ackingPoison mode poisonIds batch →
      Step cfg s .reader
        ({ s with redis := s.redis.xack poisonIds }.setReader (afterPoison mode batch))
  | ackPoisonFails (s : State) (mode : Mode) (poisonIds : List MsgId) (batch : Batch)
      (applied : Bool) : s.proc.reader = .ackingPoison mode poisonIds batch →
      Step cfg s .reader
        ({ s with redis := if applied then s.redis.xack poisonIds else s.redis }.setReader
          (raised cfg mode))
  | put (s : State) (mode : Mode) (batch : Batch) : s.proc.reader = .putting mode batch →
      hasRoom cfg s.proc.queue →
      Step cfg s .reader { s with proc :=
        { s.proc with reader := .reading mode, queue := s.proc.queue ++ [some batch] } }
  /-- `stop` ends the live loop, a cancellation any wait of the reader. -/
  | stop (s : State) (sentinels : Nat) : s.proc.reader ≠ .closing sentinels →
      Step cfg s .reader (s.setReader (.closing cfg.workerCount))
  | putSentinel (s : State) (sentinels : Nat) : s.proc.reader = .closing (sentinels + 1) →
      hasRoom cfg s.proc.queue →
      Step cfg s .reader { s with proc :=
        { s.proc with reader := .closing sentinels, queue := s.proc.queue ++ [none] } }
  | get (s : State) (i : Nat) (batch : Batch) (rest : List (Option Batch)) :
      s.proc.workers[i]? = some .idle → s.proc.queue = some batch :: rest →
      Step cfg s (.worker i)
        ({ s with proc := { s.proc with queue := rest } }.setWorker i (startBatch cfg batch))
  | getSentinel (s : State) (i : Nat) (rest : List (Option Batch)) :
      s.proc.workers[i]? = some .idle → s.proc.queue = none :: rest →
      Step cfg s (.worker i)
        ({ s with proc := { s.proc with queue := rest } }.setWorker i .done)
  /-- The transaction commits; the connection may be lost right after. -/
  | commit (s : State) (i : Nat) (batch : Batch) (chunk : List Tuple) (todo : List (List Tuple))
      (lost : Bool) : s.proc.workers[i]? = some (.writing batch (chunk :: todo)) →
      Step cfg s (.worker i)
        ({ s with db := s.db.flush cfg i chunk }.setWorker i
          (if lost then .idle else afterChunk batch todo))
  /-- Acquiring a connection or the transaction fails: the worker drops the batch. -/
  | rollback (s : State) (i : Nat) (batch : Batch) (todo : List (List Tuple)) :
      s.proc.workers[i]? = some (.writing batch todo) →
      Step cfg s (.worker i) (s.setWorker i .idle)
  | ack (s : State) (i : Nat) (batch : Batch) : s.proc.workers[i]? = some (.acking batch) →
      Step cfg s (.worker i)
        ({ s with redis := s.redis.xack batch.messageIds }.setWorker i .idle)
  | ackFails (s : State) (i : Nat) (batch : Batch) (applied : Bool) :
      s.proc.workers[i]? = some (.acking batch) →
      Step cfg s (.worker i)
        ({ s with redis := if applied then s.redis.xack batch.messageIds else s.redis }.setWorker i
          .idle)
  /-- A second cancellation of `start` reaches the workers through `gather`. -/
  | cancelWorker (s : State) (i : Nat) : Step cfg s (.worker i) (s.setWorker i .done)
  /-- The process dies at any point and is started again. -/
  | crash (s : State) : Step cfg s .crash { s with proc := .fresh cfg }

/-- The consumer over any stream, from an empty group and an empty table. -/
def consumer (cfg : Config) : System State Label where
  init s := s.redis.delivered = 0 ∧ s.redis.pel = [] ∧ s.redis.acked = [] ∧
    s.db.table = Dict.empty ∧ s.db.committed = [] ∧
    s.db.staging = List.replicate cfg.workerCount [] ∧ s.proc = .fresh cfg
  step := Step cfg

end LocoTwin.DbWriter
