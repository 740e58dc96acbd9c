/-
# DbWriter.Rows -- from decoded rows to table rows

The adapter of a model class turns a decoded row into the tuple that is copied into
a staging table, one cell per column, by the kind of the column.  Parsing a
timestamp, parsing a UUID and dumping JSON are functions of the standard library and
enter as `Stdlib`; every result holds for any.

A `Table` holds at most one row for each primary key: it is a dictionary from keys to
tuples.  `insertNew` is `INSERT … ON CONFLICT DO NOTHING`.

`chunks` are the slices `records[start : start + chunk_size]` of the write loop
(`exists_mem_chunks`: unless the size is negative they hold every record).
-/
import LocoTwin.Lib.Dict
import LocoTwin.Shared.Wire

namespace LocoTwin.DbWriter

open LocoTwin.Lib LocoTwin.Shared

set_option autoImplicit false

/-! ## Model classes -/

/-- What `_build_adapter` distinguishes of a column type. -/
inductive ColumnKind where
  | dateTime
  | uuid
  | jsonb
  | other
  deriving DecidableEq, Repr

structure Column where
  name : String
  kind : ColumnKind
  primaryKey : Bool := false
  nullable : Bool := false
  deriving DecidableEq, Repr

structure ModelClass where
  tablename : String
  columns : List Column
  deriving DecidableEq, Repr

def telemetryRecord : ModelClass where
  tablename := "raw_telemetry"
  columns :=
    [ { name := "time", kind := .dateTime, primaryKey := true },
      { name := "locomotive_id", kind := .uuid, primaryKey := true },
      { name := "locomotive_type", kind := .other },
      { name := "sensor_type", kind := .other, primaryKey := true },
      { name := "value", kind := .other },
      { name := "filtered_value", kind := .other },
      { name := "unit", kind := .other },
      { name := "sample_rate_hz", kind := .other },
      { name := "latitude", kind := .other, nullable := true },
      { name := "longitude", kind := .other, nullable := true } ]

def alertRecord : ModelClass where
  tablename := "alert_events"
  columns :=
    [ { name := "id", kind := .uuid, primaryKey := true },
      { name := "locomotive_id", kind := .uuid },
      { name := "locomotive_type", kind := .other },
      { name := "sensor_type", kind := .other },
      { name := "severity", kind := .other },
      { name := "value", kind := .other },
      { name := "threshold_min", kind := .other },
      { name := "threshold_max", kind := .other },
      { name := "message", kind := .other },
      { name := "recommendation", kind := .other },
      { name := "timestamp", kind := .dateTime },
      { name := "acknowledged", kind := .other } ]

def healthSnapshotRecord : ModelClass where
  tablename := "health_snapshots"
  columns :=
    [ { name := "id", kind := .uuid, primaryKey := true },
      { name := "locomotive_id", kind := .uuid },
      { name := "locomotive_type", kind := .other },
      { name := "score", kind := .other },
      { name := "category", kind := .other },
      { name := "top_factors", kind := .jsonb },
      { name := "damage_penalty", kind := .other },
      { name := "calculated_at", kind := .dateTime } ]

/-! ## The adapter -/

/-- `datetime.fromisoformat`, `uuid.UUID` and `json.dumps(…, default=str)`. -/
structure Stdlib where
  fromisoformat : PyVal → Except PyError Datetime
  uuid : PyVal → Except PyError UUID
  dumps : PyVal → Except PyError String

/-- A cell of a record. -/
inductive Cell where
  | value (v : PyVal)
  | datetime (t : Datetime)
  | uuid (u : UUID)
  deriving DecidableEq

/-- One record, a cell per column. -/
abbrev Tuple := List Cell

/-- The converter of a column; `None` passes through all of them. -/
def convert (py : Stdlib) (kind : ColumnKind) (v : PyVal) : Except PyError Cell :=
  match kind, v with
  | _, .none => .ok (.value .none)
  | .dateTime, v => (py.fromisoformat v).map .datetime
  | .uuid, v => (py.uuid v).map .uuid
  | .jsonb, .str s => .ok (.value (.str s))
  | .jsonb, v => (py.dumps v).map fun s => .value (.str s)
  | .other, v => .ok (.value v)

/-- `row_to_tuple` -/
def rowToTuple (py : Stdlib) (columns : List Column) (row : PyVal) : Except PyError Tuple :=
  columns.mapM fun column => (row.get column.name).bind (convert py column.kind)

/-- Where all conversions succeed, each row has its record and each record its row. -/
theorem mapM_ok {α β ε : Type} {f : α → Except ε β} {xs : List α} {ys : List β}
    (ok : xs.mapM f = .ok ys) :
    (∀ x ∈ xs, ∃ y ∈ ys, f x = .ok y) ∧ ∀ y ∈ ys, ∃ x ∈ xs, f x = .ok y := by
  induction xs generalizing ys with
  | nil =>
      obtain rfl : [] = ys := Except.ok.inj ok
      simp
  | cons x rest ih =>
      rw [List.mapM_cons] at ok
      cases first : f x with
      | error e => simp [first, bind, Except.bind] at ok
      | ok y =>
          cases later : rest.mapM f with
          | error e => simp [first, later, bind, Except.bind] at ok
          | ok ys' =>
              obtain rfl : y :: ys' = ys := by
                simpa [first, later, bind, Except.bind, pure, Except.pure] using ok
              obtain ⟨forth, back⟩ := ih later
              constructor
              · intro x' mem
                rcases List.mem_cons.mp mem with rfl | mem
                · exact ⟨y, List.mem_cons_self, first⟩
                · obtain ⟨y', mem', eq⟩ := forth x' mem
                  exact ⟨y', List.mem_cons_of_mem _ mem', eq⟩
              · intro y' mem
                rcases List.mem_cons.mp mem with rfl | mem
                · exact ⟨x, List.mem_cons_self, first⟩
                · obtain ⟨x', mem', eq⟩ := back y' mem
                  exact ⟨x', List.mem_cons_of_mem _ mem', eq⟩

/-- Conversions that all succeed succeed together. -/
theorem mapM_total {α β ε : Type} {f : α → Except ε β} {xs : List α}
    (all : ∀ x ∈ xs, ∃ y, f x = .ok y) : ∃ ys, xs.mapM f = .ok ys := by
  induction xs with
  | nil => exact ⟨[], rfl⟩
  | cons x rest ih =>
      obtain ⟨y, first⟩ := all x List.mem_cons_self
      obtain ⟨ys, later⟩ := ih fun x' mem => all x' (List.mem_cons_of_mem _ mem)
      refine ⟨y :: ys, ?_⟩
      rw [List.mapM_cons, first, later]
      rfl

/-- The primary key of a record. -/
def primaryKey (columns : List Column) (record : Tuple) : List Cell :=
  ((columns.zip record).filter fun e => e.1.primaryKey).map Prod.snd

/-! ## Tables -/

/-- The rows of a table by primary key. -/
abbrev Table := Dict (List Cell) Tuple

/-- `INSERT … ON CONFLICT DO NOTHING` of one record. -/
def insertNew (columns : List Column) (table : Table) (record : Tuple) : Table :=
  match table.get? (primaryKey columns record) with
  | some _ => table
  | none => table.set (primaryKey columns record) record

/-- The records of a staging table, one after another. -/
def insertAll (columns : List Column) (table : Table) (records : List Tuple) : Table :=
  records.foldl (insertNew columns) table

theorem get?_insertNew (columns : List Column) (table : Table) (record : Tuple)
    (key : List Cell) :
    (insertNew columns table record).get? key =
      if key = primaryKey columns record then some ((table.get? key).getD record)
      else table.get? key := by
  unfold insertNew
  cases found : table.get? (primaryKey columns record) with
  | some old =>
      by_cases same : key = primaryKey columns record
      · subst same; simp [found]
      · simp [same]
  | none =>
      simp only [Dict.get?_set]
      by_cases same : key = primaryKey columns record
      · subst same; simp [found]
      · simp [same]

/-- An insertion keeps the rows that are there, adds records only, and leaves every
record's key in the table. -/
theorem insertAll_spec (columns : List Column) (records : List Tuple) (table : Table) :
    (∀ key row, table.get? key = some row → (insertAll columns table records).get? key = some row) ∧
      (∀ record ∈ records, primaryKey columns record ∈ (insertAll columns table records).keys) ∧
      ∀ key row, (insertAll columns table records).get? key = some row →
        table.get? key = some row ∨ row ∈ records ∧ key = primaryKey columns row := by
  induction records generalizing table with
  | nil => exact ⟨fun _ _ h => h, by simp, fun _ _ h => .inl h⟩
  | cons record rest ih =>
      obtain ⟨kept, present, origin⟩ := ih (insertNew columns table record)
      refine ⟨?_, ?_, ?_⟩
      · intro key row h
        apply kept key row
        rw [get?_insertNew]
        split_ifs <;> simp [h]
      · intro r mem
        rcases List.mem_cons.mp mem with rfl | later
        · have here := get?_insertNew columns table r (primaryKey columns r)
          rw [if_pos rfl] at here
          exact Dict.mem_keys.mpr ⟨_, kept _ _ here⟩
        · exact present r later
      · intro key row h
        rcases origin key row h with before | ⟨mem, rfl⟩
        · rw [get?_insertNew] at before
          split_ifs at before with same
          · cases old : table.get? key with
            | some row' => exact .inl (by simpa [old] using before)
            | none =>
                obtain rfl : record = row := by simpa [old] using before
                exact .inr ⟨List.mem_cons_self, same⟩
          · exact .inl before
        · exact .inr ⟨List.mem_cons_of_mem _ mem, rfl⟩

/-! ## Chunks -/

/-- `[records[start : start + chunk_size] for start in range(0, total, chunk_size)]`:
a zero step raises, a negative one counts up to nothing. -/
def chunks {α : Type} (chunkSize : Int) (records : List α) : Except PyError (List (List α)) :=
  if chunkSize = 0 then
    .error { kind := "ValueError", text := "range() arg 3 must not be zero" }
  else if chunkSize < 0 then .ok []
  else
    let size := chunkSize.toNat
    .ok ((List.range ((records.length + size - 1) / size)).map fun i =>
      (records.drop (i * size)).take size)

/-- A chunk holds records only, whatever the size. -/
theorem mem_of_mem_chunks {α : Type} {chunkSize : Int} {records : List α} {cs : List (List α)}
    (ok : chunks chunkSize records = .ok cs) {chunk : List α} (chunk_mem : chunk ∈ cs) {x : α}
    (mem : x ∈ chunk) : x ∈ records := by
  unfold chunks at ok
  split_ifs at ok with zero negative
  · obtain rfl := Except.ok.inj ok
    simp at chunk_mem
  · obtain rfl := Except.ok.inj ok
    obtain ⟨i, -, rfl⟩ := List.mem_map.mp chunk_mem
    exact List.mem_of_mem_drop (List.mem_of_mem_take mem)

/-- With a size that is not negative, every record is in a chunk. -/
theorem exists_mem_chunks {α : Type} {chunkSize : Int} (nonneg : 0 ≤ chunkSize)
    {records : List α} {cs : List (List α)} (ok : chunks chunkSize records = .ok cs) {x : α}
    (mem : x ∈ records) : ∃ chunk ∈ cs, x ∈ chunk := by
  unfold chunks at ok
  split_ifs at ok with zero negative
  · omega
  · obtain rfl := Except.ok.inj ok
    have pos : 0 < chunkSize.toNat := by omega
    simp only [List.mem_map, List.mem_range, exists_exists_and_eq_and]
    obtain ⟨j, hj, rfl⟩ := List.getElem_of_mem mem
    -- the record at `j` is in the chunk with number `j / size`
    refine ⟨j / chunkSize.toNat, ?_, ?_⟩
    · have next : j / chunkSize.toNat + 1 = (j + chunkSize.toNat) / chunkSize.toNat :=
        (Nat.add_div_right j pos).symm
      have le : (j + chunkSize.toNat) / chunkSize.toNat ≤
          (records.length + chunkSize.toNat - 1) / chunkSize.toNat :=
        Nat.div_le_div_right (by omega)
      omega
    · have within := Nat.mod_lt j pos
      have position : j / chunkSize.toNat * chunkSize.toNat + j % chunkSize.toNat = j :=
        Nat.div_add_mod' j chunkSize.toNat
      rw [List.mem_iff_getElem?]
      refine ⟨j % chunkSize.toNat, ?_⟩
      rw [List.getElem?_take_of_lt within, List.getElem?_drop, position,
        List.getElem?_eq_getElem hj]

end LocoTwin.DbWriter
