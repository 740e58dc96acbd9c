/-
# AlertLog -- alerts from the processor to the list, and their acknowledgement

`AcknowledgeAlert` is the one write to the tables that does not go through the db-writer: it
sets a flag in the row of an alert while copies of the alert may still be on their way, in the
stream, in a batch of a worker or in a redelivery after a crash.

The db-writer inserts with ON CONFLICT DO NOTHING, so a row that is there is not written
again.  `alertLog` adds the acknowledgements to the pipeline of the alert stream.

* `overlay_insertAll`: inserting commutes with the flags that are set;
* `alertLog_refines`: a state of the system is a state of the plain pipeline with its flags
  laid over the table, so what is proved of the pipeline holds of it;
* **`alerts_permanent`**: a row that is found stays, and nothing about it changes but the flag,
  which only an acknowledgement sets and nothing takes back;
* **`alerts_faithful`**: every row is what the processor wrote, with the flag set exactly for
  the alerts that were acknowledged once they were stored.
-/
import LocoTwin.StoredRows

namespace LocoTwin.AlertLog

open LocoTwin.Lib LocoTwin.Shared LocoTwin.Processor LocoTwin.DbWriter LocoTwin.StoredRows

set_option autoImplicit false

/-! ## The statements -/

/-- The row with one column set. -/
def assign (name : String) (value : Cell) : List Column → Tuple → Tuple
  | column :: columns, cell :: cells =>
      (if column.name = name then value else cell) :: assign name value columns cells
  | _, cells => cells

/-- `SET acknowledged = TRUE` -/
def acknowledged (row : Tuple) : Tuple :=
  assign "acknowledged" (.value (.bool true)) alertRecord.columns row

/-- `find_by_id` -/
def findById (table : Table) (alertId : UUID) : Option Tuple := table.get? [.uuid alertId]

/-- `UPDATE alert_events SET acknowledged = TRUE WHERE id = …` -/
def acknowledge (table : Table) (alertId : UUID) : Table :=
  table.mapValues fun key row => if key = [.uuid alertId] then acknowledged row else row

/-! ## The system -/

structure State where
  pipeline : Pipeline
  /-- The acknowledgements that found a row; nobody keeps them. -/
  flags : List UUID

inductive Label where
  | pipeline (label : PipelineLabel)
  | acknowledge (alertId : UUID)

/-- The state with another table. -/
def withTable (p : Pipeline) (table : Table) : Pipeline :=
  { p with consumer := { p.consumer with db := { p.consumer.db with table } } }

def State.table (s : State) : Table := s.pipeline.consumer.db.table

section

variable (M : PyMath) (orm : Ormsgpack) (cfg : Config)

inductive Step : State → Label → State → Prop where
  | pipeline (s : State) (label : PipelineLabel) (after : Pipeline) :
      PipelineStep M orm cfg .alerts s.pipeline label after →
      Step s (.pipeline label) { s with pipeline := after }
  /-- The `UPDATE` of `AcknowledgeAlert`; what it reads after the commit changes nothing. -/
  | acknowledge (s : State) (alertId : UUID) :
      Step s (.acknowledge alertId)
        { pipeline := withTable s.pipeline (acknowledge s.table alertId)
          flags := if (findById s.table alertId).isSome then s.flags ++ [alertId] else s.flags }

/-- The alert stream with its readers, empty at first. -/
def alertLog : System State Label where
  init s := (pipeline M orm cfg .alerts).init s.pipeline ∧ s.flags = []
  step := Step M orm cfg

end

/-! ## Flags over a table -/

/-- The table with the flags set. -/
def overlay (flags : List UUID) (table : Table) : Table :=
  table.mapValues fun key row =>
    if key ∈ flags.map fun id => [.uuid id] then acknowledged row else row

/-- Only alerts that are there are flagged. -/
def Flagged (flags : List UUID) (table : Table) : Prop :=
  ∀ id ∈ flags, [Cell.uuid id] ∈ table.keys

theorem get?_overlay (flags : List UUID) (table : Table) (key : List Cell) :
    (overlay flags table).get? key = (table.get? key).map fun row =>
      if key ∈ flags.map fun id => [.uuid id] then acknowledged row else row :=
  Dict.get?_mapValues _ table key

theorem keys_overlay (flags : List UUID) (table : Table) :
    (overlay flags table).keys = table.keys :=
  Dict.keys_mapValues _ table

theorem overlay_nil (table : Table) : overlay [] table = table := by
  refine Dict.ext ?_
  simp [overlay, Dict.mapValues]

theorem assign_assign (name : String) (value : Cell) (columns : List Column) (row : Tuple) :
    assign name value columns (assign name value columns row) = assign name value columns row := by
  induction columns generalizing row with
  | nil => rfl
  | cons column columns ih =>
      cases row with
      | nil => rfl
      | cons cell cells =>
          rw [assign, assign, ih]
          split <;> rfl

theorem acknowledged_acknowledged (row : Tuple) :
    acknowledged (acknowledged row) = acknowledged row :=
  assign_assign _ _ _ row

/-- One more flag. -/
theorem acknowledge_overlay (flags : List UUID) (table : Table) (alertId : UUID) :
    acknowledge (overlay flags table) alertId = overlay (flags ++ [alertId]) table := by
  refine Dict.ext ?_
  simp only [acknowledge, overlay, Dict.mapValues, List.map_map]
  refine List.map_congr_left ?_
  rintro ⟨key, row⟩ -
  refine Prod.ext rfl ?_
  simp only [Function.comp_apply, List.map_append, List.map_cons, List.map_nil, List.mem_append,
    List.mem_singleton]
  by_cases now : key = [.uuid alertId]
  · rw [if_pos now, if_pos (Or.inr now)]
    split
    · exact acknowledged_acknowledged row
    · rfl
  · simp [now]

/-- Flags of rows that are not there are not there either. -/
theorem overlay_append_absent {flags : List UUID} {table : Table} {alertId : UUID}
    (absent : [Cell.uuid alertId] ∉ table.keys) :
    overlay (flags ++ [alertId]) table = overlay flags table := by
  refine Dict.ext ?_
  simp only [overlay, Dict.mapValues]
  refine List.map_congr_left ?_
  rintro ⟨key, row⟩ mem
  have ne : key ≠ [.uuid alertId] := by
    rintro rfl
    exact absent (List.mem_map_of_mem mem)
  simp [ne]

theorem overlay_insertNew {flags : List UUID} {table : Table} (flagged : Flagged flags table)
    (columns : List Column) (record : Tuple) :
    overlay flags (insertNew columns table record) =
      insertNew columns (overlay flags table) record := by
  unfold insertNew
  rw [get?_overlay]
  cases found : table.get? (primaryKey columns record) with
  | some old => rfl
  | none =>
      have unflagged : primaryKey columns record ∉ flags.map fun id => [Cell.uuid id] := by
        intro mem
        obtain ⟨id, id_mem, same⟩ := List.mem_map.mp mem
        exact Dict.get?_eq_none.mp found (same ▸ flagged id id_mem)
      simp only [Option.map_none, overlay, Dict.mapValues_set, if_neg unflagged]

theorem Flagged.mono {flags : List UUID} {old new : Table} (sub : old.keys ⊆ new.keys)
    (flagged : Flagged flags old) : Flagged flags new :=
  fun id mem => sub (flagged id mem)

theorem keys_insertAll (columns : List Column) (table : Table) (records : List Tuple) :
    table.keys ⊆ (insertAll columns table records).keys := by
  intro key mem
  obtain ⟨row, found⟩ := Dict.mem_keys.mp mem
  exact Dict.mem_keys.mpr ⟨row, (insertAll_spec columns records table).1 key row found⟩

/-- Inserting commutes with the flags. -/
theorem overlay_insertAll {flags : List UUID} {table : Table} (flagged : Flagged flags table)
    (columns : List Column) (records : List Tuple) :
    overlay flags (insertAll columns table records) =
      insertAll columns (overlay flags table) records := by
  induction records generalizing table with
  | nil => rfl
  | cons record rest ih =>
      have flagged' : Flagged flags (insertNew columns table record) :=
        flagged.mono (keys_insertAll columns table [record])
      rw [insertAll, List.foldl_cons, ← insertAll, ih flagged', overlay_insertNew flagged]
      rfl

/-! ## The flags are all there is to it -/

section

variable {M : PyMath} {orm : Ormsgpack} {cfg : Config}

/-- Whatever the table, the pipeline takes the same step and inserts the same records. -/
theorem pipeline_step_table {p p' : Pipeline} {label : PipelineLabel}
    (step : PipelineStep M orm cfg .alerts p label p') : ∃ records,
      p'.consumer.db.table =
        insertAll alertRecord.columns p.consumer.db.table records ∧
      ∀ table, PipelineStep M orm cfg .alerts (withTable p table) label
        (withTable p' (insertAll alertRecord.columns table records)) := by
  cases step with
  | xadd request payload handed nonempty packed =>
      exact ⟨[], rfl, fun table => .xadd (withTable p table) request payload handed nonempty packed⟩
  | consumer label after notProducer step =>
      obtain ⟨records, inserted, same⟩ := consumer_step_table step
      exact ⟨records, inserted, fun table =>
        .consumer (withTable p table) label _ notProducer (same table)⟩

/-- The state is that of the plain pipeline with its flags laid over the table. -/
structure Refines (s : State) (p : Pipeline) : Prop where
  flagged : Flagged s.flags p.consumer.db.table
  pipeline : s.pipeline = withTable p (overlay s.flags p.consumer.db.table)

/-- **Refinement.** -/
theorem alertLog_refines {s : State} (reach : (alertLog M orm cfg).Reachable s) :
    ∃ p, (pipeline M orm cfg .alerts).Reachable p ∧ Refines s p := by
  apply reach.simulated
  · rintro s ⟨start, none⟩
    refine ⟨s.pipeline, start, by simp [Flagged, none], ?_⟩
    rw [none, overlay_nil]
    rfl
  · intro s label s' p related step
    cases step with
    | pipeline label after moved =>
        right
        obtain ⟨records, inserted, same⟩ := pipeline_step_table moved
        have plain := same p.consumer.db.table
        rw [related.pipeline] at plain inserted
        refine ⟨label, _, plain, related.flagged.mono (keys_insertAll _ _ records), ?_⟩
        have commuted : after.consumer.db.table =
            overlay s.flags (insertAll alertRecord.columns p.consumer.db.table records) :=
          inserted.trans (overlay_insertAll related.flagged _ records).symm
        show after = withTable after
          (overlay s.flags (insertAll alertRecord.columns p.consumer.db.table records))
        rw [← commuted]
        rfl
    | acknowledge alertId =>
        left
        have table : s.table = overlay s.flags p.consumer.db.table :=
          congrArg (fun p : Pipeline => p.consumer.db.table) related.pipeline
        have present : (findById s.table alertId).isSome = true ↔
            [Cell.uuid alertId] ∈ p.consumer.db.table.keys := by
          rw [table, ← keys_overlay s.flags, Dict.mem_keys, Option.isSome_iff_exists]
          rfl
        have laid : acknowledge s.table alertId =
            overlay (s.flags ++ [alertId]) p.consumer.db.table := by
          rw [table, acknowledge_overlay]
        by_cases here : [Cell.uuid alertId] ∈ p.consumer.db.table.keys
        · rw [if_pos (present.mpr here)]
          refine ⟨?_, ?_⟩
          · intro id mem
            rcases List.mem_append.mp mem with before | now
            · exact related.flagged id before
            · exact List.mem_singleton.mp now ▸ here
          · rw [laid, related.pipeline]
            rfl
        · rw [if_neg (fun found => here (present.mp found))]
          refine ⟨related.flagged, ?_⟩
          rw [laid, overlay_append_absent here, related.pipeline]
          rfl

/-! ## Nothing is taken back -/

/-- A step leaves a row as it is, but for its own acknowledgement. -/
theorem findById_step {s s' : State} {label : Label} (step : Step M orm cfg s label s')
    {id : UUID} {row : Tuple} (found : findById s.table id = some row) :
    (label = .acknowledge id → findById s'.table id = some (acknowledged row)) ∧
      (label ≠ .acknowledge id → findById s'.table id = some row) := by
  cases step with
  | pipeline label after moved =>
      refine ⟨fun same => absurd same (by simp), fun _ => ?_⟩
      obtain ⟨records, inserted, -⟩ := pipeline_step_table moved
      show after.consumer.db.table.get? [.uuid id] = some row
      rw [inserted]
      exact (insertAll_spec _ records _).1 _ _ found
  | acknowledge alertId =>
      have now : (acknowledge s.table alertId).get? [.uuid id] =
          some (if [Cell.uuid id] = [.uuid alertId] then acknowledged row else row) := by
        rw [acknowledge, Dict.get?_mapValues]
        exact congrArg _ found
      refine ⟨?_, ?_⟩
      · rintro same
        cases same
        rw [if_pos rfl] at now
        exact now
      · intro other
        have ne : [Cell.uuid id] ≠ [.uuid alertId] := by
          intro same
          simp only [List.cons.injEq, Cell.uuid.injEq, and_true] at same
          exact other (congrArg Label.acknowledge same.symm)
        rw [if_neg ne] at now
        exact now

/-- **Permanence.**  A row that is found is found in every later state, whatever is delivered,
redelivered or acknowledged in between: with its flag set if one of the steps acknowledges it,
and exactly as it was otherwise. -/
theorem alerts_permanent {s t : State} {labels : List Label}
    (run : (alertLog M orm cfg).Run s labels t) {id : UUID} {row : Tuple}
    (found : findById s.table id = some row) :
    (Label.acknowledge id ∈ labels → findById t.table id = some (acknowledged row)) ∧
      (Label.acknowledge id ∉ labels → findById t.table id = some row) := by
  induction run with
  | nil => exact ⟨by simp, fun _ => found⟩
  | @snoc t u labels label _ step ih =>
      by_cases before : Label.acknowledge id ∈ labels
      · obtain ⟨acks, keeps⟩ := findById_step step (ih.1 before)
        refine ⟨fun _ => ?_, fun none => absurd (List.mem_append_left _ before) none⟩
        by_cases now : label = .acknowledge id
        · rw [acks now, acknowledged_acknowledged]
        · exact keeps now
      · obtain ⟨acks, keeps⟩ := findById_step step (ih.2 before)
        refine ⟨?_, ?_⟩
        · intro mem
          exact acks (List.mem_singleton.mp ((List.mem_append.mp mem).resolve_left before)).symm
        · intro none
          refine keeps ?_
          rintro rfl
          exact none (List.mem_append_right _ (List.mem_singleton_self _))

/-! ## What the rows say -/

/-- The evaluator acknowledges nothing. -/
theorem pipeline_unacknowledged (M : PyMath) (state : ProcessorState)
    (item : TelemetryReading × Stamps) :
    ∀ r ∈ (Processor.pipeline M state item).2.alertRecords, r.acknowledged = false := by
  intro r mem
  obtain ⟨event, event_mem, rfl⟩ := List.mem_map.mp mem
  obtain ⟨spec, id, -, -, made⟩ := mem_alertLoop_event event_mem
  rw [made]
  rfl

theorem mem_collect_alerts {ps : List Processed} {r : Processor.AlertRecord}
    (mem : r ∈ (Batch.collect ps).allAlertRecords) : ∃ p ∈ ps, r ∈ p.alertRecords := by
  induction ps with
  | nil => cases mem
  | cons p rest ih =>
      rw [Batch.collect_cons] at mem
      rcases List.mem_append.mp mem with here | later
      · refine ⟨p, List.mem_cons_self, ?_⟩
        unfold Processed.toBatch at here
        cases outcome : p.health <;> simpa [outcome] using here
      · obtain ⟨p', mem', found⟩ := ih later
        exact ⟨p', List.mem_cons_of_mem _ mem', found⟩

/-- Every alert row of a request is the literal of an alert that nobody acknowledged. -/
theorem handed_unacknowledged {request : StreamRows} (handed : Handed M request) :
    ∀ row ∈ request.alerts, ∃ r : Processor.AlertRecord, row = r.singleDict ∧
      r.acknowledged = false := by
  intro row mem
  cases handed with
  | single state item work worked =>
      obtain ⟨r, r_mem, rfl⟩ := List.mem_map.mp mem
      refine ⟨r, rfl, ?_⟩
      rw [processSingle_eq] at worked
      cases outcome : (Processor.pipeline M state item).2.health with
      | error exc =>
          rw [outcome] at worked
          cases worked
      | ok health =>
          rw [outcome] at worked
          obtain rfl := Except.ok.inj worked
          exact pipeline_unacknowledged M state item r r_mem
  | batch state items =>
      obtain ⟨r, r_mem, rfl⟩ := List.mem_map.mp mem
      refine ⟨r, batchDict_eq r, ?_⟩
      rw [processReadingsSync_eq] at r_mem
      obtain ⟨p, p_mem, found⟩ := mem_collect_alerts r_mem
      obtain ⟨n, at_n⟩ := List.mem_iff_getElem?.mp p_mem
      rw [Machine.getElem?_run] at at_n
      obtain ⟨item, -, rfl⟩ := Option.map_eq_some_iff.mp at_n
      exact pipeline_unacknowledged M _ item r found

variable {loads : String → Except PyError PyVal}

/-- The row as it would be with the flag. -/
def flaggedAs (r : Processor.AlertRecord) (flag : Bool) : Row :=
  { r with acknowledged := flag }.singleDict

/-- Setting one column of a record sets it in the row it is faithful to. -/
theorem faithful_assign {row row' : Row} {name : String} {value : Cell} {columns : List Column}
    {record : Tuple} (faithful : List.Forall₂ (CellFaithful loads row) columns record)
    (same : ∀ column ∈ columns, column.name ≠ name →
      row'.lookup column.name = row.lookup column.name)
    (new : ∀ column ∈ columns, column.name = name → CellFaithful loads row' column value) :
    List.Forall₂ (CellFaithful loads row') columns (assign name value columns record) := by
  induction faithful with
  | nil => exact .nil
  | @cons column cell columns cells here _ ih =>
      refine .cons ?_ (ih (fun c mem => same c (List.mem_cons_of_mem _ mem))
        fun c mem => new c (List.mem_cons_of_mem _ mem))
      by_cases own : column.name = name
      · rw [if_pos own]
        exact new column List.mem_cons_self own
      · rw [if_neg own]
        obtain ⟨field, found, rest⟩ := here
        exact ⟨field, (same column List.mem_cons_self own).trans found, rest⟩

theorem faithful_acknowledged {r : Processor.AlertRecord} {record : Tuple}
    (faithful : Faithful loads alertRecord r.singleDict record) :
    Faithful loads alertRecord (flaggedAs r true) (acknowledged record) := by
  refine faithful_assign faithful ?_ ?_
  · intro column mem ne
    simp only [alertRecord, List.mem_cons, List.not_mem_nil, or_false] at mem
    rcases mem with rfl | rfl | rfl | rfl | rfl | rfl | rfl | rfl | rfl | rfl | rfl | rfl
    case inr.inr.inr.inr.inr.inr.inr.inr.inr.inr.inr => exact absurd rfl ne
    all_goals rfl
  · intro column mem own
    refine ⟨.plain (.bool true), ?_, ?_, fun _ => by simp⟩
    · rw [own]
      rfl
    · have kind : column.kind = .other := by
        revert own
        revert column
        decide
      simp [Holds, kind]

/-- The key of a record of an alert is its id. -/
theorem primaryKey_faithful {r : Processor.AlertRecord} {record : Tuple}
    (faithful : Faithful loads alertRecord r.singleDict record) :
    primaryKey alertRecord.columns record = [.uuid r.id] := by
  cases faithful with
  | @cons _ cell columns cells first rest =>
      obtain ⟨field, found, holds, -⟩ := first
      obtain rfl : Field.uuid r.id = field := Option.some.inj found
      obtain rfl : cell = .uuid r.id := holds
      have others : ∀ column ∈ alertRecord.columns.tail, column.primaryKey = false := by decide
      have none : (alertRecord.columns.tail.zip cells).filter (fun e => e.1.primaryKey) = [] := by
        refine List.filter_eq_nil_iff.mpr ?_
        intro e mem
        simp [others e.1 (List.of_mem_zip mem).1]
      exact congrArg (fun pairs => Cell.uuid r.id :: pairs.map Prod.snd) none

/-- **The list is faithful.**  In every state each row that is found is that of an alert the
processor raised, every column holding what the processor wrote, with the flag set exactly if
the alert was acknowledged once it was stored; and each alert that was sent is waiting in the
stream, pending, or found. -/
theorem alerts_faithful (laws : WireLaws orm cfg)
    (empty : ∃ error, cfg.wireDecode [] = .error error) (flush : 0 ≤ cfg.rowsPerFlush)
    {s : State} (reach : (alertLog M orm cfg).Reachable s) :
    (∀ id row, findById s.table id = some row →
        ∃ rows ∈ s.pipeline.handed, ∃ r : Processor.AlertRecord, r.singleDict ∈ rows ∧ r.id = id ∧
          r.acknowledged = false ∧
          Faithful loads alertRecord (flaggedAs r (decide (id ∈ s.flags))) row) ∧
      ∀ i rows, s.pipeline.handed[i]? = some rows →
        s.pipeline.consumer.redis.delivered ≤ i ∨ i ∈ s.pipeline.consumer.redis.pel ∨
          ∀ r : Processor.AlertRecord, r.singleDict ∈ rows →
            (findById s.table r.id).isSome = true := by
  obtain ⟨p, plain, related⟩ := alertLog_refines reach
  have tracked := reachable_tracked empty plain
  have json : ∀ rows ∈ p.handed, ∀ row ∈ rows,
      JsonDumpsBack cfg.py loads StreamKind.alerts.modelClass row :=
    fun _ _ _ _ column mem kind => absurd kind (alertRecord_noJson mem)
  have handed : s.pipeline.handed = p.handed := by
    rw [related.pipeline]
    rfl
  have redis : s.pipeline.consumer.redis = p.consumer.redis := by
    rw [related.pipeline]
    rfl
  have table : s.table = overlay s.flags p.consumer.db.table :=
    congrArg (fun p : Pipeline => p.consumer.db.table) related.pipeline
  refine ⟨?_, ?_⟩
  · intro id row found
    rw [findById, table, get?_overlay] at found
    obtain ⟨original, stored, rfl⟩ := Option.map_eq_some_iff.mp found
    obtain ⟨key, rows, mem, row, row_mem, -, faithful⟩ := tracked.origin laws empty json stored
    obtain ⟨request, request_handed, rfl⟩ := tracked.requests rows mem
    obtain ⟨r, rfl, unacknowledged⟩ := handed_unacknowledged request_handed row row_mem
    have own : [Cell.uuid id] = [.uuid r.id] := key.trans (primaryKey_faithful faithful)
    simp only [List.cons.injEq, Cell.uuid.injEq, and_true] at own
    refine ⟨_, handed ▸ mem, r, row_mem, own.symm, unacknowledged, ?_⟩
    by_cases flag : id ∈ s.flags
    · rw [if_pos (List.mem_map_of_mem flag), decide_eq_true flag]
      exact faithful_acknowledged faithful
    · have none : [Cell.uuid id] ∉ s.flags.map fun id => [Cell.uuid id] := by
        intro mem
        obtain ⟨id', id_mem, same⟩ := List.mem_map.mp mem
        simp only [List.cons.injEq, Cell.uuid.injEq, and_true] at same
        exact flag (same ▸ id_mem)
      rw [if_neg none, decide_eq_false flag, flaggedAs, ← unacknowledged]
      exact faithful
  · intro i rows at_i
    rw [handed] at at_i
    rw [redis]
    refine (tracked.placed laws empty flush json at_i).imp_right (Or.imp_right ?_)
    rintro ⟨-, stored⟩ r mem
    obtain ⟨record, row, made, found, -⟩ := stored _ mem
    have here : p.consumer.db.table.get? [.uuid r.id] = some row := by
      rw [← primaryKey_faithful made.faithful]
      exact found
    rw [findById, table, get?_overlay, here]
    rfl

end

/-! ## One alert -/

/-- The message of `speedingAlert`. -/
def alertPayload : Raw := pack (speedingPayload speedingRows.alerts)

def alertWire : PyVal := (wireRow instant speedingAlert.singleDict).getD .none

def alertTuple : Tuple :=
  [.uuid 2, .uuid 1, .value (.str "TE33A"), .value (.str "speed_actual"),
    .value (.str "emergency"), .value (.float 130), .value (.float 0), .value (.float 120),
    .value (.str speedingAlert.message), .value (.str speedingAlert.recommendation),
    .datetime 1767225600000000, .value (.bool false)]

def alertConsumer : Config := StreamKind.alerts.config speedingConsumer

def alertBatch : DbWriter.Batch := ⟨[0], [alertWire]⟩

theorem alert_decoded :
    decodeEntries alertConsumer [(0, message alertPayload)] = ⟨alertBatch, []⟩ := by
  decide +kernel

theorem alert_started :
    startBatch alertConsumer alertBatch = .writing alertBatch [[alertTuple]] := by
  decide +kernel

abbrev sample : System State Label := alertLog .onIntegers speedingWire speedingConsumer

/-- Sent, read and written; not acknowledged by anyone. -/
theorem alert_stored : ∃ s, sample.Reachable s ∧ findById s.table 2 = some alertTuple ∧
    s.flags = [] := by
  let start : DbWriter.State :=
    ⟨⟨[], 0, [], []⟩, ⟨Dict.empty, List.replicate 3 [], []⟩, .fresh alertConsumer⟩
  have initial : sample.Reachable ⟨⟨start, []⟩, []⟩ :=
    .init ⟨⟨⟨rfl, rfl, rfl, rfl, rfl, rfl, rfl⟩, rfl, rfl⟩, rfl⟩
  have known : speedingRows.alerts ∈ speedingMessages := by simp [speedingMessages]
  have packed : speedingWire.packb speedingRows.alerts = .ok alertPayload := by
    simp only [speedingWire, if_pos known, alertPayload]
  have sent := initial.step (.pipeline _ _ _ (.xadd _ speedingRows alertPayload speeding_handed
    (by simp [StreamKind.rows, speedingRows]) packed))
  have live := sent.step (.pipeline _ _ _ (.consumer _ .reader _ (by simp) (.drained _ rfl rfl)))
  have count : 1 ≤ alertConsumer.readerBatchSize := by
    show 1 ≤ 50
    decide
  have available : 0 + 1 ≤ [message alertPayload].length := Nat.le_refl 1
  have read := live.step (.pipeline _ _ _ (.consumer _ .reader _ (by simp)
    (.readNew _ 1 rfl count available)))
  have room : (0 : Int) < alertConsumer.queueMaxsize := by
    show (0 : Int) < 4
    decide
  have decoded : decodeEntries (StreamKind.alerts.config speedingConsumer)
      [(0, message alertPayload)] = ⟨alertBatch, []⟩ := alert_decoded
  have queued := read.step (.pipeline _ _ _ (.consumer _ _ _ (by simp)
    (.put _ .live alertBatch
      (by simp [DbWriter.State.setReader, Redis.entries, Redis.deliver, start, decoded,
            afterDecode, afterPoison, alertBatch]) (.inr room))))
  have taken := queued.step (.pipeline _ _ _ (.consumer _ _ _ (by simp)
    (.get _ 0 alertBatch [] rfl rfl)))
  have committed := taken.step (.pipeline _ _ _ (.consumer _ _ _ (by simp)
    (.commit _ 0 alertBatch [alertTuple] [] false (congrArg some alert_started))))
  exact ⟨_, committed, rfl, rfl⟩

theorem alerts_permanent_speeding : ∃ s t : State, sample.Run s [.acknowledge 2] t ∧
    findById s.table 2 = some alertTuple ∧
    (Label.acknowledge 2 ∈ [Label.acknowledge 2] →
      findById t.table 2 = some (acknowledged alertTuple)) ∧
    (Label.acknowledge 2 ∉ [Label.acknowledge 2] → findById t.table 2 = some alertTuple) := by
  obtain ⟨s, -, found, -⟩ := alert_stored
  have run : sample.Run s [.acknowledge 2] _ := .snoc (.nil s) (.acknowledge s 2)
  exact ⟨s, _, run, found, alerts_permanent run found⟩

theorem alerts_faithful_speeding : ∃ s, sample.Reachable s ∧
    findById s.table 2 = some alertTuple ∧
    (∀ id row, findById s.table id = some row →
        ∃ rows ∈ s.pipeline.handed, ∃ r : Processor.AlertRecord, r.singleDict ∈ rows ∧ r.id = id ∧
          r.acknowledged = false ∧
          Faithful speedingLoads alertRecord (flaggedAs r (decide (id ∈ s.flags))) row) ∧
      ∀ i rows, s.pipeline.handed[i]? = some rows →
        s.pipeline.consumer.redis.delivered ≤ i ∨ i ∈ s.pipeline.consumer.redis.pel ∨
          ∀ r : Processor.AlertRecord, r.singleDict ∈ rows →
            (findById s.table r.id).isSome = true := by
  obtain ⟨s, reach, found, -⟩ := alert_stored
  exact ⟨s, reach, found, alerts_faithful speeding_laws empty_speeding (by decide) reach⟩

end LocoTwin.AlertLog
