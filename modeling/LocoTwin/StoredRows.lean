/-
# StoredRows -- from the endpoints of the processor to the tables

One stream with its producer, the processor, and its consumer, the db-writer.  A message
enters the stream where `xadd_rows` succeeds with the rows of a request, and from then on it
is waiting in the stream, pending in the group, or acknowledged.

* `Inv.accounted`: a delivered message is pending until it is acknowledged;
* `arrives`: the consumer decodes a message of the processor to records faithful to its rows;
* `stored_run`: ON CONFLICT DO NOTHING never changes a record that is stored;
* **`handed_rows_arrive`**: every message is in one of the three places, an acknowledged one
  has all its rows in the table, and the table holds rows of such messages only.

Of several rows with one primary key the first that is inserted stays.

Trimming by `MAXLEN` is not a step: it takes a message away that nobody has read.
-/
import LocoTwin.DbWriter.Durability
import LocoTwin.DbWriter.RowFidelity

namespace LocoTwin.StoredRows

open LocoTwin.Lib LocoTwin.Shared LocoTwin.Processor LocoTwin.DbWriter

set_option autoImplicit false

/-! ## The streams -/

inductive StreamKind where
  | telemetry
  | alerts
  | health
  deriving DecidableEq, Repr

namespace StreamKind

/-- The rows of a request for the stream. -/
def rows : StreamKind → StreamRows → List Row
  | .telemetry, r => r.telemetry
  | .alerts, r => r.alerts
  | .health, r => r.health

/-- The model class of the consumer of the stream. -/
def modelClass : StreamKind → ModelClass
  | .telemetry => telemetryRecord
  | .alerts => DbWriter.alertRecord
  | .health => healthSnapshotRecord

/-- The consumer of the stream. -/
def config (kind : StreamKind) (cfg : Config) : Config :=
  { cfg with modelClass := kind.modelClass }

end StreamKind

/-- `fields={"d": payload}`, as Redis returns them. -/
def message (payload : Raw) : Fields := Dict.empty.set (.bytes "d") payload

structure Pipeline where
  consumer : State
  /-- The rows of the messages of the stream, which nobody keeps. -/
  handed : List (List Row)

inductive PipelineLabel where
  | xadd (rows : List Row)
  | consumer (label : Label)

section

variable (M : PyMath) (orm : Ormsgpack) (cfg : Config) (kind : StreamKind)

inductive PipelineStep : Pipeline → PipelineLabel → Pipeline → Prop where
  /-- `xadd_rows` of a request, to either endpoint and in any state of the processor. -/
  | xadd (s : Pipeline) (request : StreamRows) (payload : Raw) : Handed M request →
      kind.rows request ≠ [] → orm.packb (kind.rows request) = .ok payload →
      PipelineStep s (.xadd (kind.rows request))
        { consumer :=
            { s.consumer with
              redis :=
                { s.consumer.redis with
                  stream := s.consumer.redis.stream ++ [message payload] } }
          handed := s.handed ++ [kind.rows request] }
  /-- A step of the db-writer. -/
  | consumer (s : Pipeline) (label : Label) (after : State) : label ≠ .producer →
      Step (kind.config cfg) s.consumer label after →
      PipelineStep s (.consumer label) { s with consumer := after }

/-- One stream, empty at first. -/
def pipeline : System Pipeline PipelineLabel where
  init s := (consumer (kind.config cfg)).init s.consumer ∧ s.consumer.redis.stream = [] ∧
    s.handed = []
  step := PipelineStep M orm cfg kind

end

/-! ## Where a message is -/

/-- Paired lists have pairs at every index of the second. -/
theorem paired_at {α β : Type} {R : α → β → Prop} {xs : List α} {ys : List β}
    (paired : List.Forall₂ R xs ys) {i : Nat} {y : β} (at_i : ys[i]? = some y) :
    ∃ x, xs[i]? = some x ∧ R x y := by
  obtain ⟨length, each⟩ := List.forall₂_iff_get.mp paired
  obtain ⟨within, rfl⟩ := List.getElem?_eq_some_iff.mp at_i
  have within' : i < xs.length := length ▸ within
  exact ⟨xs[i], List.getElem?_eq_getElem within', each i within' within⟩

/-- A delivered message is pending until it is acknowledged. -/
def Pending (redis : Redis) : Prop :=
  ∀ id, id < redis.delivered → id ∈ redis.pel ∨ id ∈ redis.acked

theorem Pending.deliver {redis : Redis} (pending : Pending redis) (n : Nat) :
    Pending (redis.deliver n) := by
  intro id lt
  by_cases before : id < redis.delivered
  · exact (pending id before).imp (List.mem_append_left _) fun mem => mem
  · refine .inl (List.mem_append_right _ (List.mem_range'_1.mpr ?_))
    have within : id < redis.delivered + n := lt
    omega

theorem Pending.xack {redis : Redis} (pending : Pending redis) (ids : List MsgId) :
    Pending (redis.xack ids) := by
  intro id lt
  by_cases mem : id ∈ ids
  · exact .inr (List.mem_append_right _ mem)
  · exact (pending id lt).imp (fun before => mem_pel_xack.mpr ⟨before, mem⟩)
      (List.mem_append_left _)

/-- The consumer appends nothing, and every entry stays where it is. -/
theorem consumer_step_redis {cfg : Config} {s s' : State} {label : Label}
    (step : Step cfg s label s') (notProducer : label ≠ .producer) :
    s'.redis.stream = s.redis.stream ∧ (Pending s.redis → Pending s'.redis) := by
  cases step with
  | produce fields => exact absurd rfl notProducer
  | readNew n => exact ⟨rfl, fun pending => pending.deliver n⟩
  | readFails mode n => exact ⟨rfl, fun pending => pending.deliver n⟩
  | ackPoison mode poisonIds => exact ⟨rfl, fun pending => pending.xack poisonIds⟩
  | ackPoisonFails mode poisonIds batch applied =>
      cases applied with
      | false => exact ⟨rfl, id⟩
      | true => exact ⟨rfl, fun pending => pending.xack poisonIds⟩
  | ack i batch => exact ⟨rfl, fun pending => pending.xack batch.messageIds⟩
  | ackFails i batch applied =>
      cases applied with
      | false => exact ⟨rfl, id⟩
      | true => exact ⟨rfl, fun pending => pending.xack batch.messageIds⟩
  | _ => exact ⟨rfl, id⟩

/-- The consumer looks at no row: whatever the table, it takes the same step, and inserts the
same records. -/
theorem consumer_step_table {cfg : Config} {s s' : State} {label : Label}
    (step : Step cfg s label s') : ∃ records,
      s'.db.table = insertAll cfg.modelClass.columns s.db.table records ∧
      ∀ table, Step cfg { s with db := { s.db with table } } label
        { s' with db := { s'.db with
          table := insertAll cfg.modelClass.columns table records } } := by
  cases step with
  | produce fields => exact ⟨[], rfl, fun _ => .produce _ fields⟩
  | drained reader none => exact ⟨[], rfl, fun _ => .drained _ reader none⟩
  | readPending reader some => exact ⟨[], rfl, fun _ => .readPending _ reader some⟩
  | readNew n reader count available =>
      exact ⟨[], rfl, fun _ => .readNew _ n reader count available⟩
  | readFails mode n reader count available draining =>
      exact ⟨[], rfl, fun _ => .readFails _ mode n reader count available draining⟩
  | ackPoison mode poisonIds batch reader =>
      exact ⟨[], rfl, fun _ => .ackPoison _ mode poisonIds batch reader⟩
  | ackPoisonFails mode poisonIds batch applied reader =>
      exact ⟨[], rfl, fun _ => .ackPoisonFails _ mode poisonIds batch applied reader⟩
  | put mode batch reader room => exact ⟨[], rfl, fun _ => .put _ mode batch reader room⟩
  | stop sentinels reader => exact ⟨[], rfl, fun _ => .stop _ sentinels reader⟩
  | putSentinel sentinels reader room =>
      exact ⟨[], rfl, fun _ => .putSentinel _ sentinels reader room⟩
  | get i batch rest worker queue => exact ⟨[], rfl, fun _ => .get _ i batch rest worker queue⟩
  | getSentinel i rest worker queue =>
      exact ⟨[], rfl, fun _ => .getSentinel _ i rest worker queue⟩
  | commit i batch chunk todo lost worker =>
      exact ⟨chunk, rfl, fun _ => .commit _ i batch chunk todo lost worker⟩
  | rollback i batch todo worker => exact ⟨[], rfl, fun _ => .rollback _ i batch todo worker⟩
  | ack i batch worker => exact ⟨[], rfl, fun _ => .ack _ i batch worker⟩
  | ackFails i batch applied worker =>
      exact ⟨[], rfl, fun _ => .ackFails _ i batch applied worker⟩
  | cancelWorker i => exact ⟨[], rfl, fun _ => .cancelWorker _ i⟩
  | crash => exact ⟨[], rfl, fun _ => .crash _⟩

section

variable {M : PyMath} {orm : Ormsgpack} {cfg : Config} {kind : StreamKind}

/-- A record that is stored is not changed. -/
theorem stored_step {s s' : Pipeline} {label : PipelineLabel}
    (step : PipelineStep M orm cfg kind s label s') {key : List Cell} {record : Tuple}
    (stored : s.consumer.db.table.get? key = some record) :
    s'.consumer.db.table.get? key = some record := by
  cases step with
  | xadd request payload handed nonempty packed => exact stored
  | consumer label after notProducer step =>
      obtain ⟨records, inserted, -⟩ := consumer_step_table step
      show after.db.table.get? key = some record
      rw [inserted]
      exact (insertAll_spec _ records _).1 key record stored

theorem stored_run {s t : Pipeline} {labels : List PipelineLabel}
    (run : (pipeline M orm cfg kind).Run s labels t) {key : List Cell} {record : Tuple}
    (stored : s.consumer.db.table.get? key = some record) :
    t.consumer.db.table.get? key = some record := by
  induction run with
  | nil => exact stored
  | snoc _ step ih => exact stored_step step ih

/-- The entry of the stream that the rows were sent as. -/
def Sent (orm : Ormsgpack) (rows : List Row) (fields : Fields) : Prop :=
  ∃ payload, orm.packb rows = .ok payload ∧ fields = message payload

structure Tracked (M : PyMath) (orm : Ormsgpack) (cfg : Config) (kind : StreamKind)
    (s : Pipeline) : Prop where
  durable : Inv (kind.config cfg) s.consumer
  accounted : Pending s.consumer.redis
  sent : List.Forall₂ (Sent orm) s.handed s.consumer.redis.stream
  requests : ∀ rows ∈ s.handed, ∃ request, Handed M request ∧ rows = kind.rows request

theorem Tracked.init {s : Pipeline} (start : (pipeline M orm cfg kind).init s) :
    Tracked M orm cfg kind s := by
  obtain ⟨started, stream, none⟩ := start
  refine ⟨.init started, ?_, ?_, ?_⟩
  · intro id lt
    rw [started.1] at lt
    exact absurd lt (Nat.not_lt_zero id)
  · rw [none, stream]
    exact .nil
  · simp [none]

theorem Tracked.step (empty : ∃ error, cfg.wireDecode [] = .error error) {s s' : Pipeline}
    {label : PipelineLabel} (tracked : Tracked M orm cfg kind s)
    (step : PipelineStep M orm cfg kind s label s') : Tracked M orm cfg kind s' := by
  have undecoded : ∃ error, (kind.config cfg).wireDecode [] = .error error := empty
  cases step with
  | xadd request payload handed nonempty packed =>
      refine ⟨?_, tracked.accounted, ?_, ?_⟩
      · exact tracked.durable.step undecoded (Step.produce _ (message payload))
      · exact List.rel_append tracked.sent (.cons ⟨payload, packed, rfl⟩ .nil)
      · intro rows mem
        rcases List.mem_append.mp mem with before | now
        · exact tracked.requests rows before
        · exact ⟨request, handed, List.mem_singleton.mp now⟩
  | consumer label after notProducer step =>
      obtain ⟨stream, accounted⟩ := consumer_step_redis step notProducer
      refine ⟨tracked.durable.step undecoded step, accounted tracked.accounted, ?_,
        tracked.requests⟩
      show List.Forall₂ (Sent orm) s.handed after.redis.stream
      rw [stream]
      exact tracked.sent

theorem reachable_tracked (empty : ∃ error, cfg.wireDecode [] = .error error) {s : Pipeline}
    (reach : (pipeline M orm cfg kind).Reachable s) : Tracked M orm cfg kind s := by
  apply reach.invariant
  · intro s start
    exact .init start
  · intro s label s' tracked step
    exact tracked.step empty step

/-! ## A message of the processor -/

variable {loads : String → Except PyError PyVal}

theorem requests_conform {request : StreamRows} (handed : Handed M request) :
    ∀ row ∈ kind.rows request, Conforms kind.modelClass row := by
  obtain ⟨telemetry, alerts, health⟩ := handed_conform handed
  cases kind with
  | telemetry => exact telemetry
  | alerts => exact alerts
  | health => exact health

/-- The library writes no empty message, so the field is found. -/
theorem rawField_message (laws : WireLaws orm cfg)
    (empty : ∃ error, cfg.wireDecode [] = .error error) {rows : List Row} {payload : Raw}
    (packed : orm.packb rows = .ok payload) : rawField (message payload) = some payload := by
  have field : (message payload).get? (.bytes "d") = some payload := Dict.get?_set_self _ _ _
  cases payload with
  | nil =>
      obtain ⟨error, rejected⟩ := empty
      obtain ⟨decoded, -, unpacked⟩ := laws.packed rows [] packed
      rw [laws.decode, unpacked] at rejected
      cases rejected
  | cons byte rest => simp only [rawField, field]

/-- What the consumer inserts for a row. -/
def recordOf (orm : Ormsgpack) (cfg : Config) (cls : ModelClass) (row : Row) : Option Tuple :=
  (wireRow orm.rfc3339 row).bind fun d => (rowToTuple cfg.py cls.columns d).toOption

/-- The record is the one inserted for the row, and holds what the row says. -/
structure Made (orm : Ormsgpack) (cfg : Config) (loads : String → Except PyError PyVal)
    (cls : ModelClass) (row : Row) (record : Tuple) : Prop where
  inserted : recordOf orm cfg cls row = some record
  faithful : Faithful loads cls row record

/-- The consumer decodes the message to rows, and inserts a faithful record for every one. -/
structure Arrives (orm : Ormsgpack) (cfg : Config) (loads : String → Except PyError PyVal)
    (cls : ModelClass) (rows : List Row) (fields : Fields) (decoded : List PyVal) : Prop where
  field : ∃ raw, rawField fields = some raw ∧
    payloadRows { cfg with modelClass := cls } raw = .ok decoded
  each : List.Forall₂
    (fun row d => ∃ record, rowToTuple cfg.py cls.columns d = .ok record ∧
      Made orm cfg loads cls row record) rows decoded

theorem arrives (laws : WireLaws orm cfg) (empty : ∃ error, cfg.wireDecode [] = .error error)
    {cls : ModelClass} {rows : List Row} {fields : Fields} (sent : Sent orm rows fields)
    (conform : ∀ row ∈ rows, Conforms cls row)
    (json : ∀ row ∈ rows, JsonDumpsBack cfg.py loads cls row) :
    ∃ decoded, Arrives orm cfg loads cls rows fields decoded := by
  obtain ⟨payload, packed, rfl⟩ := sent
  obtain ⟨decoded, wired, read⟩ := payloadRows_packed laws cls packed
  refine ⟨decoded, ⟨payload, rawField_message laws empty packed, read⟩, ?_⟩
  have paired := (List.forall₂_and_left rows decoded).mpr ⟨fun row mem => mem, wired⟩
  refine paired.imp ?_
  intro row d ⟨mem, wire⟩
  obtain ⟨record, converted, faithful⟩ :=
    rowToTuple_faithful laws (conform row mem) (json row mem) wire
  refine ⟨record, converted, ?_, faithful⟩
  rw [recordOf, wire, Option.bind_some, converted]
  rfl

/-- What the consumer makes of a decoded row is faithful to a row that was sent. -/
theorem Arrives.origin {cls : ModelClass} {rows : List Row} {fields : Fields}
    {decoded : List PyVal} (arrived : Arrives orm cfg loads cls rows fields decoded) {d : PyVal}
    (mem : d ∈ decoded) {record : Tuple}
    (converted : rowToTuple cfg.py cls.columns d = .ok record) :
    ∃ row ∈ rows, Made orm cfg loads cls row record := by
  obtain ⟨i, at_i⟩ := List.mem_iff_getElem?.mp mem
  obtain ⟨row, row_at, record', converted', made⟩ := paired_at arrived.each at_i
  rw [converted] at converted'
  obtain rfl := Except.ok.inj converted'
  exact ⟨row, List.mem_of_getElem? row_at, made⟩

/-! ## The pipeline -/

/-- Under the key of each row is its record or, where another row of the stream has the same
key, the record of that one: the first of them that was inserted. -/
def InTable (orm : Ormsgpack) (cfg : Config) (loads : String → Except PyError PyVal)
    (cls : ModelClass) (db : Database) (handed : List (List Row)) (rows : List Row) : Prop :=
  ∀ row ∈ rows, ∃ record stored, Made orm cfg loads cls row record ∧
    db.table.get? (primaryKey cls.columns record) = some stored ∧
    (stored = record ∨ ∃ others ∈ handed, ∃ other ∈ others, other ≠ row ∧
      Made orm cfg loads cls other stored ∧
      primaryKey cls.columns stored = primaryKey cls.columns record)

/-- A message of the stream, with the rows it was sent for. -/
theorem Tracked.arrives (laws : WireLaws orm cfg)
    (empty : ∃ error, cfg.wireDecode [] = .error error) {s : Pipeline}
    (tracked : Tracked M orm cfg kind s)
    (json : ∀ rows ∈ s.handed, ∀ row ∈ rows, JsonDumpsBack cfg.py loads kind.modelClass row)
    {id : MsgId} {fields : Fields} (found : s.consumer.redis.stream[id]? = some fields) :
    ∃ rows decoded, s.handed[id]? = some rows ∧
      Arrives orm cfg loads kind.modelClass rows fields decoded := by
  obtain ⟨rows, at_id, sent⟩ := paired_at tracked.sent found
  have mem := List.mem_of_getElem? at_id
  obtain ⟨request, handed, same⟩ := tracked.requests rows mem
  obtain ⟨decoded, arrived⟩ := StoredRows.arrives laws empty sent
    (same ▸ requests_conform handed) (json rows mem)
  exact ⟨rows, decoded, at_id, arrived⟩

/-- A message whose payload decodes is not malformed. -/
theorem not_malformed {fields : Fields} {raw : Raw} {decoded : List PyVal}
    (field : rawField fields = some raw) (read : payloadRows cfg raw = .ok decoded) :
    ¬ Malformed cfg fields := by
  rintro (⟨bytes, str⟩ | ⟨raw', error, field', failed⟩)
  · rw [rawField, bytes] at field
    exact absurd (field.symm.trans str) (by simp)
  · rw [field] at field'
    obtain rfl := Option.some.inj field'
    rw [read] at failed
    cases failed

/-- Each row of a message of the processor that was acknowledged has its key in the table. -/
theorem Arrives.keys {rows : List Row} {fields : Fields} {decoded : List PyVal}
    {db : Database} (arrived : Arrives orm cfg loads kind.modelClass rows fields decoded)
    (guarantee : Malformed (kind.config cfg) fields ∨ ∃ raw rows', rawField fields = some raw ∧
      payloadRows (kind.config cfg) raw = .ok rows' ∧ ∀ row ∈ rows', ∃ record,
        rowToTuple cfg.py kind.modelClass.columns row = .ok record ∧
        primaryKey kind.modelClass.columns record ∈ db.table.keys) :
    ∀ row ∈ rows, ∃ record, Made orm cfg loads kind.modelClass row record ∧
      primaryKey kind.modelClass.columns record ∈ db.table.keys := by
  obtain ⟨raw, field, read⟩ := arrived.field
  rcases guarantee with malformed | ⟨raw', rows', field', read', written⟩
  · exact absurd malformed (not_malformed field read)
  · rw [field] at field'
    obtain rfl := Option.some.inj field'
    obtain rfl : decoded = rows' := Except.ok.inj (read.symm.trans read')
    intro row mem
    obtain ⟨i, at_i⟩ := List.mem_iff_getElem?.mp mem
    obtain ⟨d, d_at, record, converted, made⟩ := paired_at arrived.each.flip at_i
    obtain ⟨record', converted', present⟩ := written d (List.mem_of_getElem? d_at)
    obtain rfl : record = record' := Except.ok.inj (converted.symm.trans converted')
    exact ⟨record, made, present⟩

/-- A row of the table was sent, and is under its key. -/
theorem Tracked.origin (laws : WireLaws orm cfg)
    (empty : ∃ error, cfg.wireDecode [] = .error error) {s : Pipeline}
    (tracked : Tracked M orm cfg kind s)
    (json : ∀ rows ∈ s.handed, ∀ row ∈ rows, JsonDumpsBack cfg.py loads kind.modelClass row)
    {key : List Cell} {record : Tuple}
    (stored : s.consumer.db.table.get? key = some record) :
    key = primaryKey kind.modelClass.columns record ∧
      ∃ rows ∈ s.handed, ∃ row ∈ rows, Made orm cfg loads kind.modelClass row record := by
  obtain ⟨own, id, rows', row, ⟨-, fields, raw, found, field, read⟩, row_mem, converted⟩ :=
    tracked.durable.table key record stored
  refine ⟨own, ?_⟩
  obtain ⟨rows, decoded, at_id, arrived⟩ := tracked.arrives laws empty json found
  obtain ⟨raw', field', read'⟩ := arrived.field
  rw [field] at field'
  obtain rfl := Option.some.inj field'
  obtain rfl : rows' = decoded := Except.ok.inj (read.symm.trans read')
  obtain ⟨row, row_mem, made⟩ := arrived.origin row_mem converted
  exact ⟨rows, List.mem_of_getElem? at_id, row, row_mem, made⟩

/-- A row whose key is in the table is stored there, or another one is under the key. -/
theorem Tracked.inTable (laws : WireLaws orm cfg)
    (empty : ∃ error, cfg.wireDecode [] = .error error) {s : Pipeline}
    (tracked : Tracked M orm cfg kind s)
    (json : ∀ rows ∈ s.handed, ∀ row ∈ rows, JsonDumpsBack cfg.py loads kind.modelClass row)
    {rows : List Row}
    (keys : ∀ row ∈ rows, ∃ record, Made orm cfg loads kind.modelClass row record ∧
      primaryKey kind.modelClass.columns record ∈ s.consumer.db.table.keys) :
    InTable orm cfg loads kind.modelClass s.consumer.db s.handed rows := by
  intro row mem
  obtain ⟨record, made, present⟩ := keys row mem
  obtain ⟨stored, found⟩ := Dict.mem_keys.mp present
  obtain ⟨key, others, others_mem, other, other_mem, made'⟩ := tracked.origin laws empty json found
  refine ⟨record, stored, made, found, ?_⟩
  by_cases same : other = row
  · left
    obtain rfl := same
    exact Option.some.inj (made'.inserted.symm.trans made.inserted)
  · exact .inr ⟨others, others_mem, other, other_mem, same, made', key.symm⟩

/-- A message is waiting, pending, or acknowledged and in the table. -/
theorem Tracked.placed (laws : WireLaws orm cfg)
    (empty : ∃ error, cfg.wireDecode [] = .error error) (flush : 0 ≤ cfg.rowsPerFlush)
    {s : Pipeline} (tracked : Tracked M orm cfg kind s)
    (json : ∀ rows ∈ s.handed, ∀ row ∈ rows, JsonDumpsBack cfg.py loads kind.modelClass row)
    {id : MsgId} {rows : List Row} (at_id : s.handed[id]? = some rows) :
    s.consumer.redis.delivered ≤ id ∨ id ∈ s.consumer.redis.pel ∨
      id ∈ s.consumer.redis.acked ∧
        InTable orm cfg loads kind.modelClass s.consumer.db s.handed rows := by
  by_cases waiting : s.consumer.redis.delivered ≤ id
  · exact .inl waiting
  · rcases tracked.accounted id (Nat.lt_of_not_le waiting) with pending | acked
    · exact .inr (.inl pending)
    · obtain ⟨fields, found, guarantee⟩ := (tracked.durable.durable flush).acknowledged id acked
      obtain ⟨rows', decoded, at_id', arrived⟩ := tracked.arrives laws empty json found
      rw [at_id] at at_id'
      obtain rfl := Option.some.inj at_id'
      exact .inr (.inr ⟨acked, tracked.inTable laws empty json (arrived.keys guarantee)⟩)

/-- **End to end.**  In every state of the pipeline, through failures, crashes, restarts and
redeliveries of the db-writer, a message of the processor is still in the stream, is pending
in the group, or is acknowledged with all its rows in the table; none is set aside as
malformed.  Each record of the table is that of a row of such a message, and stays as it is. -/
theorem handed_rows_arrive (laws : WireLaws orm cfg)
    (empty : ∃ error, cfg.wireDecode [] = .error error) (flush : 0 ≤ cfg.rowsPerFlush)
    {s : Pipeline} (reach : (pipeline M orm cfg kind).Reachable s)
    (json : ∀ rows ∈ s.handed, ∀ row ∈ rows, JsonDumpsBack cfg.py loads kind.modelClass row) :
    (∀ id rows, s.handed[id]? = some rows →
        s.consumer.redis.delivered ≤ id ∨ id ∈ s.consumer.redis.pel ∨
          id ∈ s.consumer.redis.acked ∧
            InTable orm cfg loads kind.modelClass s.consumer.db s.handed rows) ∧
      ∀ e ∈ s.consumer.db.table.entries,
        (∃ rows ∈ s.handed, ∃ row ∈ rows, Made orm cfg loads kind.modelClass row e.2) ∧
        ∀ labels t, (pipeline M orm cfg kind).Run s labels t →
          t.consumer.db.table.get? e.1 = some e.2 := by
  have tracked := reachable_tracked empty reach
  refine ⟨fun id rows at_id => tracked.placed laws empty flush json at_id, ?_⟩
  rintro ⟨key, record⟩ mem
  have stored := Dict.get?_eq_some.mpr mem
  exact ⟨(tracked.origin laws empty json stored).2, fun _ _ run => stored_run run stored⟩

end

/-! ## One message -/

/-- The message of `speedingHealth`. -/
def healthPayload : Raw := pack (speedingPayload speedingRows.health)

def healthWire : PyVal := (wireRow instant speedingHealth.singleDict).getD .none

def healthTuple : Tuple :=
  [.uuid 3, .uuid 1, .value (.str "TE33A"), .value (.float 85), .value (.str "Норма"),
    .value (.str speedingJson), .value (.float 0), .datetime 1767225600000000]

def healthConsumer : Config := StreamKind.health.config speedingConsumer

def healthBatch : DbWriter.Batch := ⟨[0], [healthWire]⟩

theorem health_decoded :
    decodeEntries healthConsumer [(0, message healthPayload)] = ⟨healthBatch, []⟩ := by
  decide +kernel

theorem health_started :
    startBatch healthConsumer healthBatch = .writing healthBatch [[healthTuple]] := by
  decide +kernel

/-- Sent, read, written and acknowledged. -/
theorem health_acknowledged :
    ∃ s, (pipeline .onIntegers speedingWire speedingConsumer .health).Reachable s ∧
      s.handed = [speedingRows.health] ∧ s.consumer.redis.acked = [0] := by
  let start : State :=
    ⟨⟨[], 0, [], []⟩, ⟨Dict.empty, List.replicate 3 [], []⟩, .fresh healthConsumer⟩
  have initial : (pipeline .onIntegers speedingWire speedingConsumer .health).Reachable
      ⟨start, []⟩ := .init ⟨⟨rfl, rfl, rfl, rfl, rfl, rfl, rfl⟩, rfl, rfl⟩
  have known : speedingRows.health ∈ speedingMessages := by simp [speedingMessages]
  have packed : speedingWire.packb speedingRows.health = .ok healthPayload := by
    simp only [speedingWire, if_pos known, healthPayload]
  have sent := initial.step (PipelineStep.xadd _ speedingRows healthPayload speeding_handed
    (by simp [StreamKind.rows, speedingRows]) packed)
  have live := sent.step (PipelineStep.consumer _ .reader _ (by simp) (Step.drained _ rfl rfl))
  have count : 1 ≤ healthConsumer.readerBatchSize := by
    show 1 ≤ 50
    decide
  have available : 0 + 1 ≤ [message healthPayload].length := Nat.le_refl 1
  have read := live.step (PipelineStep.consumer _ .reader _ (by simp)
    (Step.readNew _ 1 rfl count available))
  have room : (0 : Int) < healthConsumer.queueMaxsize := by
    show (0 : Int) < 4
    decide
  have decoded : decodeEntries (StreamKind.health.config speedingConsumer)
      [(0, message healthPayload)] = ⟨healthBatch, []⟩ := health_decoded
  have queued := read.step (PipelineStep.consumer _ _ _ (by simp)
    (Step.put _ .live healthBatch
      (by simp [State.setReader, Redis.entries, Redis.deliver, start, decoded, afterDecode,
            afterPoison, healthBatch]) (.inr room)))
  have taken := queued.step (PipelineStep.consumer _ _ _ (by simp)
    (Step.get _ 0 healthBatch [] rfl rfl))
  have committed := taken.step (PipelineStep.consumer _ _ _ (by simp)
    (Step.commit _ 0 healthBatch [healthTuple] [] false (congrArg some health_started)))
  have acked := committed.step (PipelineStep.consumer _ _ _ (by simp)
    (Step.ack _ 0 healthBatch rfl))
  exact ⟨_, acked, rfl, rfl⟩

theorem empty_speeding : ∃ error, speedingConsumer.wireDecode [] = .error error := by
  refine ⟨{ kind := "MsgpackDecodeError", text := "unknown message" }, ?_⟩
  have unknown : speedingMessages.find? (fun rows => pack (speedingPayload rows) = []) = none := by
    decide +kernel
  simp [speedingConsumer, speedingWire, unknown]

theorem handed_rows_arrive_health :
    ∃ s, (pipeline .onIntegers speedingWire speedingConsumer .health).Reachable s ∧
      s.consumer.redis.acked = [0] ∧
      (∀ id rows, s.handed[id]? = some rows →
        s.consumer.redis.delivered ≤ id ∨ id ∈ s.consumer.redis.pel ∨
          id ∈ s.consumer.redis.acked ∧
            InTable speedingWire speedingConsumer speedingLoads healthSnapshotRecord
              s.consumer.db s.handed rows) ∧
      ∀ e ∈ s.consumer.db.table.entries,
        (∃ rows ∈ s.handed, ∃ row ∈ rows,
          Made speedingWire speedingConsumer speedingLoads healthSnapshotRecord row e.2) ∧
        ∀ labels t, (pipeline .onIntegers speedingWire speedingConsumer .health).Run s labels t →
          t.consumer.db.table.get? e.1 = some e.2 := by
  obtain ⟨s, reach, handed, acked⟩ := health_acknowledged
  refine ⟨s, reach, acked, handed_rows_arrive speeding_laws empty_speeding (by decide) reach ?_⟩
  rw [handed]
  intro rows mem row here column column_mem kind v found
  obtain rfl := List.mem_singleton.mp mem
  obtain rfl : row = speedingHealth.singleDict := List.mem_singleton.mp here
  rw [healthSnapshotRecord_json column_mem kind] at found
  obtain rfl : speedingHealth.factors = v := by
    have known : speedingHealth.singleDict.lookup "top_factors" =
        some (.plain speedingHealth.factors) := rfl
    rw [known] at found
    exact Field.plain.inj (Option.some.inj found)
  exact ⟨speedingJson, by simp [speedingConsumer], by simp [speedingLoads]⟩

end LocoTwin.StoredRows
