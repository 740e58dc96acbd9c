/-
# DbWriter.RowFidelity -- what the processor writes is what the table gets

The processor writes its rows as dictionaries with string keys; the db-writer takes the
columns of a model class and asks each row for them, so that a key that is missing or spelt
otherwise becomes a NULL without a word.

`Conforms` is the agreement of a row with a model class: each column finds a value, of the
kind its converter expects, and not `None` where the column is NOT NULL.  Every row that the
processor builds conforms to the class its stream is read with, and a row that conforms
arrives whole.

* `delivered`: the rows of a message, if they conform, become records that hold their values;
* `row_fidelity`: this for the three messages of any request to the processor.
-/
import LocoTwin.DbWriter.StreamConsumer
import LocoTwin.Processor.StreamRows

namespace LocoTwin.DbWriter

open LocoTwin.Lib LocoTwin.Shared LocoTwin.Processor

set_option autoImplicit false

/-! ## Agreement of a row with a model class -/

/-- What the converter of the column expects, and `None` only where NULL is allowed. -/
def Column.suits (column : Column) : Field → Bool
  | .uuid _ => column.kind == .uuid
  | .datetime _ => column.kind == .dateTime
  | .plain .none => column.kind == .other && column.nullable
  | .plain (.list _) => column.kind == .jsonb
  | .plain _ => column.kind == .other

def Conforms (cls : ModelClass) (row : Row) : Prop :=
  ∀ column ∈ cls.columns, ∃ field, row.lookup column.name = some field ∧ column.suits field = true

theorem optFloat_suits {column : Column} (other : column.kind = .other)
    (nullable : column.nullable = true) (f : Option PyFloat) :
    column.suits (optFloat f) = true := by
  cases f with
  | none => simp [optFloat, Column.suits, other, nullable]
  | some f => simp [optFloat, pyFloat, Column.suits, other]

theorem telemetryRow_conforms (r : TelemetryRow) : Conforms telemetryRecord r.dict := by
  intro column mem
  simp only [telemetryRecord, List.mem_cons, List.not_mem_nil, or_false] at mem
  rcases mem with rfl | rfl | rfl | rfl | rfl | rfl | rfl | rfl | rfl | rfl
  case inr.inr.inr.inr.inr.inr.inr.inr.inl => exact ⟨_, rfl, optFloat_suits rfl rfl _⟩
  case inr.inr.inr.inr.inr.inr.inr.inr.inr => exact ⟨_, rfl, optFloat_suits rfl rfl _⟩
  all_goals exact ⟨_, rfl, rfl⟩

theorem alertRecord_conforms (r : Processor.AlertRecord) : Conforms alertRecord r.singleDict := by
  intro column mem
  simp only [alertRecord, List.mem_cons, List.not_mem_nil, or_false] at mem
  rcases mem with rfl | rfl | rfl | rfl | rfl | rfl | rfl | rfl | rfl | rfl | rfl | rfl
  all_goals exact ⟨_, rfl, rfl⟩

theorem healthRecord_conforms (r : HealthRecord) : Conforms healthSnapshotRecord r.singleDict := by
  intro column mem
  simp only [healthSnapshotRecord, List.mem_cons, List.not_mem_nil, or_false] at mem
  rcases mem with rfl | rfl | rfl | rfl | rfl | rfl | rfl | rfl
  all_goals exact ⟨_, rfl, rfl⟩

/-- The two places of the source write the same dictionaries. -/
theorem batchDict_eq (r : Processor.AlertRecord) : r.batchDict = r.singleDict := rfl

theorem healthBatchDict_eq (r : HealthRecord) : r.batchDict = r.singleDict := rfl

/-! ## One cell -/

variable {orm : Ormsgpack} {cfg : Config} {loads : String → Except PyError PyVal}

/-- The consumer decodes with the library, and reads back what the library writes of a
datetime and of a UUID. -/
structure WireLaws (orm : Ormsgpack) (cfg : Config) : Prop where
  decode : cfg.wireDecode = orm.unpackb
  packed : orm.Laws
  fromisoformat : ∀ t text, orm.rfc3339 t = some text → cfg.py.fromisoformat (.str text) = .ok t
  uuid : ∀ u, cfg.py.uuid (.str (UUID.str u)) = .ok u

/-- `json.loads(json.dumps(v)) == v` -/
def DumpsBack (py : Stdlib) (loads : String → Except PyError PyVal) (v : PyVal) : Prop :=
  ∃ text, py.dumps v = .ok text ∧ loads text = .ok v

/-- The cell holds the value: a JSON column as text that loads to it. -/
def Holds (loads : String → Except PyError PyVal) (column : Column) (field : Field)
    (cell : Cell) : Prop :=
  match field with
  | .uuid u => cell = .uuid u
  | .datetime t => cell = .datetime t
  | .plain v =>
      if column.kind = .jsonb then ∃ text, cell = .value (.str text) ∧ loads text = .ok v
      else cell = .value v

/-- One column of a record, against the row it was made of. -/
def CellFaithful (loads : String → Except PyError PyVal) (row : Row) (column : Column)
    (cell : Cell) : Prop :=
  ∃ field, row.lookup column.name = some field ∧ Holds loads column field cell ∧
    (column.nullable = false → cell ≠ .value .none)

/-- Every column holds the value the row has under its name. -/
def Faithful (loads : String → Except PyError PyVal) (cls : ModelClass) (row : Row)
    (record : Tuple) : Prop :=
  List.Forall₂ (CellFaithful loads row) cls.columns record

/-- A value that suits its column is converted to a cell that holds it. -/
theorem convert_holds (laws : WireLaws orm cfg) {column : Column} {field : Field} {v : PyVal}
    (suits : column.suits field = true) (decoded : wireField orm.rfc3339 field = some v)
    (json : ∀ v, column.kind = .jsonb → field = .plain v → DumpsBack cfg.py loads v) :
    ∃ cell, convert cfg.py column.kind v = .ok cell ∧ Holds loads column field cell ∧
      (column.nullable = false → cell ≠ .value .none) := by
  cases field with
  | uuid u =>
      have kind : column.kind = .uuid := by simpa [Column.suits] using suits
      obtain rfl := Option.some.inj decoded
      refine ⟨.uuid u, ?_, rfl, fun _ => by simp⟩
      simp [kind, convert, laws.uuid, Except.map]
  | datetime t =>
      have kind : column.kind = .dateTime := by simpa [Column.suits] using suits
      obtain ⟨text, written, rfl⟩ := Option.map_eq_some_iff.mp decoded
      refine ⟨.datetime t, ?_, rfl, fun _ => by simp⟩
      simp [kind, convert, laws.fromisoformat t text written, Except.map]
  | plain v' =>
      obtain rfl := Option.some.inj decoded
      cases v' with
      | none =>
          obtain ⟨kind, nullable⟩ : column.kind = .other ∧ column.nullable = true := by
            simpa [Column.suits] using suits
          refine ⟨.value .none, by simp [convert], by simp [Holds, kind], ?_⟩
          intro notNull
          rw [nullable] at notNull
          cases notNull
      | list xs =>
          have kind : column.kind = .jsonb := by simpa [Column.suits] using suits
          obtain ⟨text, dumped, loaded⟩ := json _ kind rfl
          refine ⟨.value (.str text), ?_, ?_, fun _ => by simp⟩
          · simp [kind, convert, dumped, Except.map]
          · simp [Holds, kind, loaded]
      | _ =>
          have kind : column.kind = .other := by simpa [Column.suits] using suits
          refine ⟨_, by rw [kind]; rfl, ?_, fun _ => by simp⟩
          simp [Holds, kind]

/-! ## One row, and a message of them -/

/-- A traversal that succeeds at each element succeeds, with what each gives; `P` pairs the
elements with what they stand for. -/
theorem mapM_forall₂ {α β γ ε : Type} {f : β → Except ε γ} {P : α → β → Prop}
    {R : α → γ → Prop} {xs : List α} {ys : List β} (paired : List.Forall₂ P xs ys)
    (all : ∀ x ∈ xs, ∀ y, P x y → ∃ z, f y = .ok z ∧ R x z) :
    ∃ zs, ys.mapM f = .ok zs ∧ List.Forall₂ R xs zs := by
  induction paired with
  | nil => exact ⟨[], rfl, .nil⟩
  | @cons x y xs ys here _ ih =>
      obtain ⟨z, first, holds⟩ := all x List.mem_cons_self y here
      obtain ⟨zs, later, hold⟩ := ih fun x mem => all x (List.mem_cons_of_mem _ mem)
      refine ⟨z :: zs, ?_, .cons holds hold⟩
      simp [List.mapM_cons, first, later, bind, Except.bind, pure, Except.pure]

theorem mapM_some {α β : Type} {f : α → Option β} {xs : List α} {ys : List β}
    (ok : xs.mapM f = some ys) : List.Forall₂ (fun x y => f x = some y) xs ys := by
  induction xs generalizing ys with
  | nil =>
      obtain rfl : [] = ys := Option.some.inj ok
      exact .nil
  | cons x rest ih =>
      rw [List.mapM_cons] at ok
      obtain ⟨y, first, ok⟩ := Option.bind_eq_some_iff.mp ok
      obtain ⟨ys', later, ok⟩ := Option.bind_eq_some_iff.mp ok
      obtain rfl := Option.some.inj ok
      exact .cons first (ih later)

/-- A decoded row has the decoded values under its names. -/
theorem lookup_decoded {row : Row} {entries : List (String × PyVal)}
    (decoded : List.Forall₂ (fun e d => wireEntry orm.rfc3339 e = some d) row entries)
    {name : String} {field : Field} (found : row.lookup name = some field) :
    ∃ v, entries.lookup name = some v ∧ wireField orm.rfc3339 field = some v := by
  induction decoded with
  | nil => cases found
  | @cons e d rest entries first _ ih =>
      obtain ⟨key, f⟩ := e
      obtain ⟨v, written, rfl⟩ := Option.map_eq_some_iff.mp first
      rw [List.lookup_cons] at found ⊢
      cases same : name == key with
      | true =>
          rw [same] at found
          obtain rfl := Option.some.inj found
          exact ⟨v, rfl, written⟩
      | false =>
          rw [same] at found
          exact ih found

/-- What a row has for the JSON columns dumps and loads. -/
def JsonDumpsBack (py : Stdlib) (loads : String → Except PyError PyVal) (cls : ModelClass)
    (row : Row) : Prop :=
  ∀ column ∈ cls.columns, column.kind = .jsonb →
    ∀ v, row.lookup column.name = some (.plain v) → DumpsBack py loads v

/-- A row that conforms to a model class arrives whole. -/
theorem rowToTuple_faithful (laws : WireLaws orm cfg) {cls : ModelClass} {row : Row}
    {decoded : PyVal} (conforms : Conforms cls row) (json : JsonDumpsBack cfg.py loads cls row)
    (wire : wireRow orm.rfc3339 row = some decoded) :
    ∃ record, rowToTuple cfg.py cls.columns decoded = .ok record ∧
      Faithful loads cls row record := by
  obtain ⟨entries, read, rfl⟩ := Option.map_eq_some_iff.mp wire
  refine mapM_forall₂ (List.forall₂_eq_eq_eq ▸ rfl) fun column mem _ same => ?_
  subst same
  obtain ⟨field, found, suits⟩ := conforms column mem
  obtain ⟨v, here, written⟩ := lookup_decoded (mapM_some read) found
  have dumps : ∀ v, column.kind = .jsonb → field = .plain v → DumpsBack cfg.py loads v := by
    rintro v kind rfl
    exact json column mem kind v found
  obtain ⟨cell, converted, holds, notNull⟩ := convert_holds laws suits written dumps
  refine ⟨cell, ?_, field, found, holds, notNull⟩
  simpa [PyVal.get, here, Except.bind] using converted

/-- The records of one message, read with the model class of the consumer. -/
def records (cfg : Config) (raw : Raw) : Except PyError (List Tuple) :=
  (payloadRows cfg raw).bind fun rows => rows.mapM (rowToTuple cfg.py cfg.modelClass.columns)

/-- Whatever message these rows are encoded to, its records are faithful to them. -/
def Delivered (orm : Ormsgpack) (cfg : Config) (loads : String → Except PyError PyVal)
    (cls : ModelClass) (rows : List Row) : Prop :=
  ∀ raw, orm.packb rows = .ok raw →
    ∃ tuples, records { cfg with modelClass := cls } raw = .ok tuples ∧
      List.Forall₂ (Faithful loads cls) rows tuples

theorem payloadRows_packed (laws : WireLaws orm cfg) (cls : ModelClass) {rows : List Row}
    {raw : Raw} (packed : orm.packb rows = .ok raw) :
    ∃ decoded, List.Forall₂ (fun row d => wireRow orm.rfc3339 row = some d) rows decoded ∧
      payloadRows { cfg with modelClass := cls } raw = .ok decoded := by
  obtain ⟨payload, written, unpacked⟩ := laws.packed rows raw packed
  obtain ⟨decoded, each, rfl⟩ := Option.map_eq_some_iff.mp written
  refine ⟨decoded, mapM_some each, ?_⟩
  have got : (PyVal.dict [("rows", .list decoded)]).get "rows" = .ok (.list decoded) := rfl
  simp only [payloadRows, laws.decode, unpacked, Except.bind, got]
  cases decoded with
  | nil => rfl
  | cons d rest => rfl

/-- **Delivery.**  The rows of an encoded message that conform to the model class arrive
whole, in their order. -/
theorem delivered (laws : WireLaws orm cfg) {cls : ModelClass} {rows : List Row}
    (conform : ∀ row ∈ rows, Conforms cls row)
    (json : ∀ row ∈ rows, JsonDumpsBack cfg.py loads cls row) :
    Delivered orm cfg loads cls rows := by
  intro raw packed
  obtain ⟨decoded, each, read⟩ := payloadRows_packed laws cls packed
  have arrives : ∀ row ∈ rows, ∀ d, wireRow orm.rfc3339 row = some d →
      ∃ record, rowToTuple cfg.py cls.columns d = .ok record ∧ Faithful loads cls row record :=
    fun row mem d wire => rowToTuple_faithful laws (conform row mem) (json row mem) wire
  obtain ⟨tuples, converted, faithful⟩ := mapM_forall₂ each arrives
  refine ⟨tuples, ?_, faithful⟩
  simp only [records, read, Except.bind]
  exact converted

/-! ## The three streams -/

theorem conform_map {α : Type} {cls : ModelClass} {dict : α → Row}
    (all : ∀ r, Conforms cls (dict r)) (rs : List α) : ∀ row ∈ rs.map dict, Conforms cls row := by
  intro row mem
  obtain ⟨r, -, rfl⟩ := List.mem_map.mp mem
  exact all r

/-- Every row of a request conforms to the class its stream is read with. -/
theorem handed_conform {M : PyMath} {rows : StreamRows} (handed : Handed M rows) :
    (∀ row ∈ rows.telemetry, Conforms telemetryRecord row) ∧
      (∀ row ∈ rows.alerts, Conforms alertRecord row) ∧
      ∀ row ∈ rows.health, Conforms healthSnapshotRecord row := by
  cases handed with
  | single state item work =>
      exact ⟨conform_map telemetryRow_conforms _, conform_map alertRecord_conforms _,
        conform_map healthRecord_conforms _⟩
  | batch state items =>
      refine ⟨conform_map telemetryRow_conforms _, conform_map (fun r => ?_) _,
        conform_map (fun r => ?_) _⟩
      · rw [batchDict_eq]
        exact alertRecord_conforms r
      · rw [healthBatchDict_eq]
        exact healthRecord_conforms r

theorem telemetryRecord_noJson {column : Column} (mem : column ∈ telemetryRecord.columns) :
    column.kind ≠ .jsonb := by
  revert column
  decide

theorem alertRecord_noJson {column : Column} (mem : column ∈ alertRecord.columns) :
    column.kind ≠ .jsonb := by
  revert column
  decide

theorem healthSnapshotRecord_json {column : Column}
    (mem : column ∈ healthSnapshotRecord.columns) (kind : column.kind = .jsonb) :
    column.name = "top_factors" := by
  revert column
  decide

/-- **Row fidelity.**  Take a request to either endpoint of the processor, in any state, and
the messages of its rows on the three streams.  The db-writer makes of each message one record
per row, in which every column holds the value the processor wrote under its name, a UUID and
a datetime as such and the top factors as text of the same JSON value, and no NOT NULL column
is `None`. -/
theorem row_fidelity (laws : WireLaws orm cfg) {M : PyMath} {rows : StreamRows}
    (handed : Handed M rows)
    (json : ∀ row ∈ rows.health, ∀ v, row.lookup "top_factors" = some (.plain v) →
      DumpsBack cfg.py loads v) :
    Delivered orm cfg loads telemetryRecord rows.telemetry ∧
      Delivered orm cfg loads alertRecord rows.alerts ∧
      Delivered orm cfg loads healthSnapshotRecord rows.health := by
  obtain ⟨telemetry, alerts, health⟩ := handed_conform handed
  refine ⟨delivered laws telemetry ?_, delivered laws alerts ?_, delivered laws health ?_⟩
  · exact fun _ _ column mem kind => absurd kind (telemetryRecord_noJson mem)
  · exact fun _ _ column mem kind => absurd kind (alertRecord_noJson mem)
  · intro row here column mem kind v found
    rw [healthSnapshotRecord_json mem kind] at found
    exact json row here v found

/-! ## One request -/

/-- The most significant byte first. -/
def bigEndian : Nat → Nat → Raw
  | 0, _ => []
  | w + 1, n => bigEndian w (n / 256) ++ [UInt8.ofNat n]

/-- The bits of a float that is a normal number or zero. -/
def float64 (f : PyFloat) : Nat :=
  let top := f.num.natAbs.log2
  if f.num = 0 then 0
  else (if f.num < 0 then 2 ^ 63 else 0) + (1023 + top - f.den.log2) * 2 ^ 52 +
    (f.num.natAbs * 2 ^ 52 / 2 ^ top - 2 ^ 52)

def packStr (s : String) : Raw :=
  let text := s.toList.flatMap String.utf8EncodeChar
  if text.length < 32 then UInt8.ofNat (0xa0 + text.length) :: text
  else 0xd9 :: UInt8.ofNat text.length :: text

mutual

/-- msgpack, for texts of up to 255 bytes and up to 15 elements. -/
def pack : PyVal → Raw
  | .none => [0xc0]
  | .bool b => [if b then 0xc3 else 0xc2]
  | .int i => 0xd3 :: bigEndian 8 (i % 2 ^ 64).toNat
  | .float f => 0xcb :: bigEndian 8 (float64 f)
  | .str s => packStr s
  | .bytes b => 0xc4 :: UInt8.ofNat b.length :: b
  | .list xs => UInt8.ofNat (0x90 + xs.length) :: packList xs
  | .dict es => UInt8.ofNat (0x80 + es.length) :: packEntries es

def packList : List PyVal → Raw
  | [] => []
  | x :: xs => pack x ++ packList xs

def packEntries : List (String × PyVal) → Raw
  | [] => []
  | (k, v) :: es => packStr k ++ pack v ++ packEntries es

end

/-- 130 km/h, with a limit of 120. -/
def speeding : TelemetryReading :=
  { locomotiveId := 1
    locomotiveType := .te33a
    timestamp := 1767225600000000
    sampleRateHz := 1
    sampleRate_range := sampleRate_default
    gps := none
    sensors := [⟨.speedActual, 130, "km/h"⟩]
    routeName := none }

def speedingStamps : Stamps := ⟨⟨fun _ => 2, 1767225600000000⟩, 3, 1767225600000000⟩

def speedingRow : TelemetryRow :=
  ⟨1767225600000000, 1, .te33a, .speedActual, 130, 130, "km/h", 1, none, none⟩

def speedingAlert : Processor.AlertRecord :=
  ⟨2, 1, .te33a, .speedActual, .emergency, 130, 0, 120,
    "[TE33A] speed_actual = 130.00 km/h (допустимо: 0.00–120.00 km/h)",
    "Применить экстренное торможение — превышение скорости", 1767225600000000, false⟩

def speedingHealth : HealthRecord :=
  ⟨3, 1, .te33a, 85, "Норма", [⟨.speedActual, 130, "km/h", 15, 100, 100⟩], 0, 1767225600000000⟩

def instant (t : Datetime) : Option String :=
  if t = 1767225600000000 then some "2026-01-01T00:00:00+00:00" else none

/-- What `json.dumps` makes of the factors of `speedingHealth`. -/
def speedingJson : String :=
  "[\x7b\"sensor_type\": \"speed_actual\", \"value\": 130.0, \"unit\": \"km/h\", " ++
    "\"penalty\": 15.0, \"contribution_pct\": 100.0, \"deviation_pct\": 100.0\x7d]"

/-- The rows of the three messages. -/
def speedingRows : StreamRows :=
  ⟨[speedingRow.dict], [speedingAlert.singleDict], [speedingHealth.singleDict]⟩

def speedingMessages : List (List Row) :=
  [speedingRows.telemetry, speedingRows.alerts, speedingRows.health]

def speedingPayload (rows : List Row) : PyVal := (wirePayload instant rows).getD .none

/-- The library, on the three messages. -/
def speedingWire : Ormsgpack where
  packb rows :=
    if rows ∈ speedingMessages then .ok (pack (speedingPayload rows))
    else .error { kind := "MsgpackEncodeError", text := "unknown payload" }
  unpackb raw :=
    match speedingMessages.find? fun rows => pack (speedingPayload rows) = raw with
    | some rows => .ok (speedingPayload rows)
    | none => .error { kind := "MsgpackDecodeError", text := "unknown message" }
  rfc3339 := instant

def parseUuid : PyVal → Except PyError UUID
  | .str s =>
      match UUID.ofText s with
      | some u => .ok u
      | none => .error { kind := "ValueError", text := "badly formed hexadecimal UUID string" }
  | _ => .error { kind := "AttributeError", text := "object has no attribute 'replace'" }

/-- A consumer whose converters know one instant and one list of factors. -/
def speedingConsumer : Config where
  modelClass := telemetryRecord
  py :=
    { fromisoformat := fun v =>
        if v = .str "2026-01-01T00:00:00+00:00" then .ok 1767225600000000
        else .error { kind := "ValueError", text := "Invalid isoformat string" }
      uuid := parseUuid
      dumps := fun v =>
        if v = speedingHealth.factors then .ok speedingJson
        else .error { kind := "TypeError", text := "not JSON serializable" } }
  wireDecode := speedingWire.unpackb
  workerCount := 3
  readerBatchSize := 50
  rowsPerFlush := 5000
  queueMaxsize := 4

def speedingLoads (text : String) : Except PyError PyVal :=
  if text = speedingJson then .ok speedingHealth.factors
  else .error { kind := "JSONDecodeError", text := "unknown text" }

/-- The eighth byte of a message is the number of columns, by which the three differ. -/
theorem speeding_distinct : ∀ rows ∈ speedingMessages, ∀ rows' ∈ speedingMessages,
    (pack (speedingPayload rows'))[7]? = (pack (speedingPayload rows))[7]? → rows' = rows := by
  decide +kernel

theorem speeding_written : ∀ rows ∈ speedingMessages, (wirePayload instant rows).isSome = true := by
  decide +kernel

theorem speeding_unpacked {rows : List Row} (mem : rows ∈ speedingMessages) :
    speedingWire.unpackb (pack (speedingPayload rows)) = .ok (speedingPayload rows) := by
  have known : (speedingMessages.find? fun rows' =>
      pack (speedingPayload rows') = pack (speedingPayload rows)).isSome = true :=
    List.find?_isSome.mpr ⟨rows, mem, by simp⟩
  obtain ⟨rows', found⟩ := Option.isSome_iff_exists.mp known
  have same : pack (speedingPayload rows') = pack (speedingPayload rows) := by
    simpa using List.find?_some found
  obtain rfl := speeding_distinct rows mem rows' (List.mem_of_find?_eq_some found)
    (congrArg (fun raw => raw[7]?) same)
  simp only [speedingWire, found]

theorem speeding_laws : WireLaws speedingWire speedingConsumer where
  decode := rfl
  packed := by
    intro rows raw packed
    simp only [speedingWire] at packed
    split at packed
    case isFalse => cases packed
    case isTrue mem =>
      obtain rfl := Except.ok.inj packed
      refine ⟨speedingPayload rows, ?_, speeding_unpacked mem⟩
      obtain ⟨payload, written⟩ := Option.isSome_iff_exists.mp (speeding_written rows mem)
      simp [speedingPayload, speedingWire, written]
  fromisoformat := by
    intro t text written
    simp only [speedingWire, instant] at written
    split at written
    case isFalse => cases written
    case isTrue here =>
      obtain rfl := Option.some.inj written
      subst here
      rfl
  uuid := by
    intro u
    simp [speedingConsumer, parseUuid, UUID.ofText_str]

theorem speeding_handed : Handed .onIntegers speedingRows := by
  have computed : (processSingle .onIntegers .empty (speeding, speedingStamps)).2.toOption.map
      Ingested.streamRows = some speedingRows := by decide +kernel
  cases worked : (processSingle .onIntegers .empty (speeding, speedingStamps)).2 with
  | error exc =>
      rw [worked] at computed
      cases computed
  | ok work =>
      rw [worked] at computed
      have same : work.streamRows = speedingRows := Option.some.inj computed
      rw [← same]
      exact .single _ _ work worked

/-- One row of each kind, on its way to the database. -/
theorem row_fidelity_speeding :
    (∀ rows ∈ speedingMessages, ∃ raw, speedingWire.packb rows = .ok raw) ∧
      Delivered speedingWire speedingConsumer speedingLoads telemetryRecord
        [speedingRow.dict] ∧
      Delivered speedingWire speedingConsumer speedingLoads alertRecord
        [speedingAlert.singleDict] ∧
      Delivered speedingWire speedingConsumer speedingLoads healthSnapshotRecord
        [speedingHealth.singleDict] := by
  refine ⟨fun rows mem => ⟨_, if_pos mem⟩, row_fidelity speeding_laws speeding_handed ?_⟩
  intro row mem v found
  obtain rfl : row = speedingHealth.singleDict := List.mem_singleton.mp mem
  obtain rfl : speedingHealth.factors = v := by
    have here : speedingHealth.singleDict.lookup "top_factors" =
        some (.plain speedingHealth.factors) := rfl
    rw [here] at found
    exact Field.plain.inj (Option.some.inj found)
  refine ⟨speedingJson, ?_, ?_⟩
  · simp [speedingConsumer]
  · simp [speedingLoads]

end LocoTwin.DbWriter
