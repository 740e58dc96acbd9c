/-
# Analytics.HealthCache -- the latest health index of a locomotive, from Redis

The processor publishes every index it computes.  A listener of the analytics service stores
each one for 60 seconds under its locomotive, and `GetCurrentHealth` answers from there
before it asks the database.  On its way to the client of the gateway an index is dumped,
encoded, decoded, put in a protobuf message and taken out of it again.

* `healthToDict_dump`: what comes out is the dictionary that was dumped;
* `Inv.step`: the listener stores in the order of publication, so that all it has still to
  store is newer than all it has stored;
* **`cached_health_published`**: an answer from the cache is the dump of an index that was
  published for the locomotive and stored at most 60 seconds ago, and later answers are of
  the same index or of a newer one;
* **`cached_health_latest`**: while the listener stays subscribed and loses nothing, and when
  it has caught up, the answer is the last index of the locomotive.
-/
import LocoTwin.Lib.Expiring
import LocoTwin.Lib.Transition
import LocoTwin.Analytics.Servicer
import LocoTwin.Lib.Binary64
import LocoTwin.DbWriter.RowFidelity

namespace LocoTwin.Analytics

open LocoTwin.Lib LocoTwin.Shared LocoTwin.Processor

set_option autoImplicit false

/-! ## The dictionary, the message and back -/

namespace HealthCache

/-- `health.model_dump(mode="json")` -/
def dump (isoformat : Datetime → String) (h : HealthIndex) : PyVal :=
  .dict
    [ ("locomotive_id", .str (UUID.str h.locomotiveId)),
      ("locomotive_type", .str h.locomotiveType.value),
      ("overall_score", .float h.overallScore),
      ("category", .str h.category),
      ("top_factors", .list (h.topFactors.map modelDump)),
      ("damage_penalty", .float h.damagePenalty),
      ("calculated_at", .str (isoformat h.calculatedAt)) ]

/-- `telemetry_pb2.HealthFactor` -/
structure FactorProto where
  sensorType : String
  value : PyFloat
  unit : String
  penalty : PyFloat
  contributionPct : PyFloat
  deviationPct : PyFloat
  deriving DecidableEq

/-- `telemetry_pb2.HealthSnapshot` -/
structure HealthProto where
  locomotiveId : String
  locomotiveType : String
  overallScore : PyFloat
  category : String
  topFactors : List FactorProto
  damagePenalty : PyFloat
  calculatedAt : String
  deriving DecidableEq

/-- What the conversions call: `str` and `float`, and the assignment of a value to a string
field or a double field of a message. -/
structure Conversions where
  str : PyVal → String
  float : PyVal → Except PyError PyFloat
  stringField : PyVal → Except PyError String
  doubleField : PyVal → Except PyError PyFloat

/-- A string is a string already, and a float a float. -/
structure Conversions.Laws (py : Conversions) : Prop where
  str : ∀ s, py.str (.str s) = s
  float : ∀ f, py.float (.float f) = .ok f
  stringField : ∀ s, py.stringField (.str s) = .ok s
  doubleField : ∀ f, py.doubleField (.float f) = .ok f

/-- `d.get(name, default)` of a dictionary. -/
def getD (entries : List (String × PyVal)) (name : String) (default : PyVal) : PyVal :=
  (entries.lookup name).getD default

variable (py : Conversions)

def factorProto (f : List (String × PyVal)) : Except PyError FactorProto := do
  let sensorType ← py.stringField (getD f "sensor_type" (.str ""))
  let value ← py.doubleField (getD f "value" (.int 0))
  let unit ← py.stringField (getD f "unit" (.str ""))
  let penalty ← py.doubleField (getD f "penalty" (.int 0))
  let contributionPct ← py.doubleField (getD f "contribution_pct" (.int 0))
  let deviationPct ← py.doubleField (getD f "deviation_pct" (.int 0))
  .ok { sensorType, value, unit, penalty, contributionPct, deviationPct }

/-- The factors that are dictionaries. -/
def factorProtos : List PyVal → Except PyError (List FactorProto)
  | [] => .ok []
  | .dict f :: rest => do
      let factor ← factorProto py f
      let factors ← factorProtos rest
      .ok (factor :: factors)
  | _ :: rest => factorProtos rest

/-- `_dict_to_health_proto` -/
def dictToHealthProto (d : PyVal) : Except PyError HealthProto :=
  match d with
  | .dict d => do
      let topFactors ← factorProtos py (← (getD d "top_factors" (.list [])).elements)
      let locomotiveType ← py.stringField (getD d "locomotive_type" (.str ""))
      let overallScore ← py.float (getD d "overall_score" (.int 0))
      let category ← py.stringField (getD d "category" (.str ""))
      let damagePenalty ← py.float (getD d "damage_penalty" (.int 0))
      .ok
        { locomotiveId := py.str (getD d "locomotive_id" (.str ""))
          locomotiveType, overallScore, category, topFactors, damagePenalty
          calculatedAt := py.str (getD d "calculated_at" (.str "")) }
  | _ => .error { kind := "AttributeError", text := "object has no attribute 'get'" }

def factorToDict (f : FactorProto) : PyVal :=
  .dict
    [ ("sensor_type", .str f.sensorType),
      ("value", .float f.value),
      ("unit", .str f.unit),
      ("penalty", .float f.penalty),
      ("contribution_pct", .float f.contributionPct),
      ("deviation_pct", .float f.deviationPct) ]

/-- `_health_to_dict` of the client. -/
def healthToDict (h : HealthProto) : PyVal :=
  .dict
    [ ("locomotive_id", .str h.locomotiveId),
      ("locomotive_type", .str h.locomotiveType),
      ("overall_score", .float h.overallScore),
      ("category", .str h.category),
      ("top_factors", .list (h.topFactors.map factorToDict)),
      ("damage_penalty", .float h.damagePenalty),
      ("calculated_at", .str h.calculatedAt) ]

variable {py}

theorem factorProtos_dump (laws : py.Laws) (factors : List Shared.HealthFactor) :
    ∃ protos, factorProtos py (factors.map modelDump) = .ok protos ∧
      protos.map factorToDict = factors.map modelDump := by
  induction factors with
  | nil => exact ⟨[], rfl, rfl⟩
  | cons f rest ih =>
      obtain ⟨protos, read, same⟩ := ih
      let proto : FactorProto :=
        ⟨f.sensorType.value, f.value, f.unit, f.penalty, f.contributionPct, f.deviationPct⟩
      refine ⟨proto :: protos, ?_, ?_⟩
      · simp [factorProtos, modelDump, factorProto, getD, List.lookup_cons, laws.stringField,
          laws.doubleField, read, bind, Except.bind, proto]
      · rw [List.map_cons, List.map_cons, same]
        rfl

/-- The client gets the dictionary that was dumped. -/
theorem healthToDict_dump (laws : py.Laws) (isoformat : Datetime → String) (h : HealthIndex) :
    (dictToHealthProto py (dump isoformat h)).map healthToDict = .ok (dump isoformat h) := by
  obtain ⟨protos, read, same⟩ := factorProtos_dump laws h.topFactors
  simp [dictToHealthProto, dump, getD, List.lookup_cons, PyVal.elements, read, laws.stringField,
    laws.float, laws.str, bind, Except.bind, Except.map, healthToDict, same]

/-! ## The answer -/

/-- Bytes of a message. -/
abbrev Raw := List UInt8

/-- `shared.wire`: msgpack of a value, and back. -/
structure WireLib where
  encode : PyVal → Except PyError Raw
  decode : Raw → Except PyError PyVal

/-- The dump of an index decodes to itself, and nothing does not decode. -/
structure WireLib.Laws (wire : WireLib) (isoformat : Datetime → String) : Prop where
  back : ∀ h raw, wire.encode (dump isoformat h) = .ok raw →
    wire.decode raw = .ok (dump isoformat h)
  empty : ∃ error, wire.decode [] = .error error

/-- `context.abort` -/
structure GrpcError where
  code : String
  details : String
  deriving DecidableEq, Repr

/-- The message of the fallback: `_compute_health_from_readings`. -/
def fallbackProto (str : Datetime → String) (h : HealthSnapshot) : HealthProto where
  locomotiveId := h.locomotiveId
  locomotiveType := h.locomotiveType.value
  overallScore := h.overallScore
  category := h.category
  topFactors := h.topFactors.map fun f => ⟨f.sensorType.value, f.value, f.unit, f.penalty, 0, 0⟩
  damagePenalty := h.damagePenalty
  calculatedAt := str h.calculatedAt

/-- What `GetCurrentHealth` answers without the cache. -/
def fallback (str : Datetime → String) (now : Datetime) (locomotiveId : String)
    (rows : List LatestReading) : Except GrpcError HealthProto :=
  if rows.isEmpty then .error ⟨"NOT_FOUND", "No telemetry data for this locomotive"⟩
  else .ok (fallbackProto str (computeHealthFromReadings binary64 now locomotiveId rows))

/-- `GetCurrentHealth`, given what the cache holds and the answer of the database. -/
def getCurrentHealth (py : Conversions) (wire : WireLib) (cached : Option Raw)
    (fallback : Except GrpcError HealthProto) : Except GrpcError HealthProto :=
  match cached with
  | some (byte :: rest) =>
      match (wire.decode (byte :: rest)).bind (dictToHealthProto py) with
      | .ok proto => .ok proto
      | .error _ => fallback
  | _ => fallback

/-- An encoded index in the cache is answered, as it was dumped. -/
theorem getCurrentHealth_cached (laws : py.Laws) {wire : WireLib} {isoformat : Datetime → String}
    (wireLaws : wire.Laws isoformat) {h : HealthIndex} {raw : Raw}
    (encoded : wire.encode (dump isoformat h) = .ok raw)
    (fallback : Except GrpcError HealthProto) :
    (getCurrentHealth py wire (some raw) fallback).map healthToDict = .ok (dump isoformat h) := by
  have decoded := wireLaws.back h raw encoded
  have back := healthToDict_dump laws isoformat h
  cases raw with
  | nil =>
      obtain ⟨error, rejected⟩ := wireLaws.empty
      rw [decoded] at rejected
      cases rejected
  | cons byte rest =>
      cases read : dictToHealthProto py (dump isoformat h) with
      | error e =>
          rw [read] at back
          cases back
      | ok proto =>
          rw [read] at back
          simp only [getCurrentHealth, decoded, Except.bind, read]
          exact congrArg Except.ok (Except.ok.inj back)

/-! ## The listener -/

/-- `channel.decode().rsplit(":", maxsplit=1)[-1]` -/
def lastSegment (channel : String) : String :=
  String.ofList (channel.toList.reverse.takeWhile fun c => c ≠ ':').reverse

theorem hexDigit_ne_colon {n : Nat} (lt : n < 16) : UUID.hexDigit n ≠ ':' := by
  have all : ∀ i : Fin 16, UUID.hexDigit i ≠ ':' := by decide
  exact all ⟨n, lt⟩

theorem hex_ne_colon {w n : Nat} {c : Char} (mem : c ∈ UUID.hex w n) : c ≠ ':' := by
  induction w generalizing n with
  | zero => cases mem
  | succ w ih =>
      rcases List.mem_append.mp mem with high | low
      · exact ih high
      · obtain rfl := List.mem_singleton.mp low
        exact hexDigit_ne_colon (Nat.mod_lt _ (by decide))

theorem str_ne_colon {u : UUID} {c : Char} (mem : c ∈ (UUID.str u).toList) : c ≠ ':' := by
  have dash : '-' ≠ ':' := by decide
  simp only [UUID.str, String.toList_ofList, List.mem_append, List.mem_cons] at mem
  rcases mem with h | rfl | h | rfl | h | rfl | h | rfl | h
  · exact hex_ne_colon (List.mem_of_mem_take h)
  · exact dash
  · exact hex_ne_colon (List.mem_of_mem_drop (List.mem_of_mem_take h))
  · exact dash
  · exact hex_ne_colon (List.mem_of_mem_drop (List.mem_of_mem_take h))
  · exact dash
  · exact hex_ne_colon (List.mem_of_mem_drop (List.mem_of_mem_take h))
  · exact dash
  · exact hex_ne_colon (List.mem_of_mem_drop h)

/-- `f"{HEALTH_CHANNEL}:{loco_id}"` -/
def channelOf (h : HealthIndex) : String := healthChannel ++ ":" ++ UUID.str h.locomotiveId

/-- The listener finds the locomotive in the name of the channel. -/
theorem lastSegment_channelOf (h : HealthIndex) :
    lastSegment (channelOf h) = UUID.str h.locomotiveId := by
  have plain : ∀ c ∈ (UUID.str h.locomotiveId).toList.reverse, decide (c ≠ ':') = true :=
    fun c mem => decide_eq_true (str_ne_colon (List.mem_reverse.mp mem))
  have text : (channelOf h).toList.reverse = (UUID.str h.locomotiveId).toList.reverse ++
      ':' :: healthChannel.toList.reverse := by
    simp [channelOf]
  rw [lastSegment, text, List.takeWhile_append_of_pos plain]
  simp

def cacheKey (locomotiveId : String) : String := "health:cache" ++ ":" ++ locomotiveId

theorem cacheKey_injective {a b : String} (same : cacheKey a = cacheKey b) : a = b :=
  (String.append_right_inj _).mp same

def cacheTtl : Int := 60

/-! ## The system -/

structure State where
  now : Datetime
  redis : Expiring String Raw
  /-- The listener is subscribed to the channels. -/
  subscribed : Bool
  /-- Messages on their way to the listener, by their number. -/
  queue : List Nat
  /-- Every index that was published, with its payload. -/
  published : List (HealthIndex × Raw)
  /-- Which message each entry of the cache is of, and when it was stored; nobody keeps it. -/
  stored : Dict String (Nat × Datetime)

inductive Label where
  | clock
  | publish
  | subscribe
  | disconnect
  | store
  | storeFails
  deriving DecidableEq

section

variable (wire : WireLib) (isoformat : Datetime → String)

/-- The listener stores the message under its locomotive. -/
def State.store (s : State) (i : Nat) (h : HealthIndex) (raw : Raw) (rest : List Nat) : State :=
  { s with
    redis := s.redis.set (cacheKey (lastSegment (channelOf h))) raw
      (some (s.now + cacheTtl * 1000000))
    stored := s.stored.set (lastSegment (channelOf h)) (i, s.now)
    queue := rest }

inductive Step : State → Label → State → Prop where
  | clock (s : State) (later : Datetime) : s.now ≤ later → Step s .clock { s with now := later }
  /-- `publish_health`; without a subscriber the message is gone. -/
  | publish (s : State) (h : HealthIndex) (raw : Raw) :
      wire.encode (dump isoformat h) = .ok raw →
      Step s .publish
        { s with
          published := s.published ++ [(h, raw)]
          queue := if s.subscribed then s.queue ++ [s.published.length] else s.queue }
  /-- A new `pubsub` starts with nothing. -/
  | subscribe (s : State) : Step s .subscribe { s with subscribed := true, queue := [] }
  | disconnect (s : State) : Step s .disconnect { s with subscribed := false, queue := [] }
  | store (s : State) (i : Nat) (rest : List Nat) (h : HealthIndex) (raw : Raw) :
      s.queue = i :: rest → s.published[i]? = some (h, raw) →
      Step s .store (s.store i h raw rest)
  /-- A `SET` that raises is logged, and the listener goes on. -/
  | storeFails (s : State) (i : Nat) (rest : List Nat) : s.queue = i :: rest →
      Step s .storeFails { s with queue := rest }

/-- Nothing is published or cached yet. -/
def healthCache : System State Label where
  init s := s.redis = Expiring.empty ∧ s.subscribed = false ∧ s.queue = [] ∧ s.published = [] ∧
    s.stored = Dict.empty
  step := Step wire isoformat

end

section

variable {wire : WireLib} {isoformat : Datetime → String}

/-! ## The invariant -/

/-- Message `i` is of the locomotive. -/
def State.IsOf (s : State) (i : Nat) (locomotiveId : String) (h : HealthIndex) (raw : Raw) :
    Prop :=
  s.published[i]? = some (h, raw) ∧ UUID.str h.locomotiveId = locomotiveId

structure Inv (wire : WireLib) (isoformat : Datetime → String) (s : State) : Prop where
  encoded : ∀ entry ∈ s.published, wire.encode (dump isoformat entry.1) = .ok entry.2
  ordered : s.queue.Pairwise (· < ·)
  queued : ∀ i ∈ s.queue, i < s.published.length
  /-- What is stored is older than all that is still to come. -/
  newer : ∀ id i at', s.stored.get? id = some (i, at') → i < s.published.length ∧
    ∀ j ∈ s.queue, i < j
  /-- Each entry of Redis is of the message that was stored last. -/
  cells : ∀ id, (s.redis.cells.get? (cacheKey id) = none ∧ s.stored.get? id = none) ∨
    ∃ i at' h raw, s.stored.get? id = some (i, at') ∧ s.IsOf i id h raw ∧ at' ≤ s.now ∧
      s.redis.cells.get? (cacheKey id) = some (raw, some (at' + cacheTtl * 1000000))

theorem Inv.init {s : State} (start : (healthCache wire isoformat).init s) :
    Inv wire isoformat s := by
  obtain ⟨redis, -, queue, published, stored⟩ := start
  refine ⟨by simp [published], by simp [queue], by simp [queue], by simp [stored], ?_⟩
  intro id
  rw [redis, stored]
  exact .inl ⟨rfl, rfl⟩

theorem State.IsOf.append {s : State} {i : Nat} {id : String} {h : HealthIndex} {raw : Raw}
    (is : s.IsOf i id h raw) (entry : HealthIndex × Raw) {s' : State}
    (published : s'.published = s.published ++ [entry]) : s'.IsOf i id h raw := by
  refine ⟨?_, is.2⟩
  have within : i < s.published.length := (List.getElem?_eq_some_iff.mp is.1).1
  rw [published, List.getElem?_append_left within]
  exact is.1

/-- A new message is newer than everything. -/
theorem Inv.publish {s : State} (inv : Inv wire isoformat s) {h : HealthIndex} {raw : Raw}
    (encoded : wire.encode (dump isoformat h) = .ok raw) :
    Inv wire isoformat
      { s with
        published := s.published ++ [(h, raw)]
        queue := if s.subscribed then s.queue ++ [s.published.length] else s.queue } := by
  have arrives : ∀ j ∈ (if s.subscribed then s.queue ++ [s.published.length] else s.queue),
      j ∈ s.queue ∨ j = s.published.length := by
    intro j mem
    split at mem
    · exact (List.mem_append.mp mem).imp_right List.mem_singleton.mp
    · exact .inl mem
  refine ⟨?_, ?_, ?_, ?_, ?_⟩
  · intro entry mem
    rcases List.mem_append.mp mem with before | now
    · exact inv.encoded entry before
    · obtain rfl := List.mem_singleton.mp now
      exact encoded
  · simp only
    split
    · refine List.pairwise_append.mpr ⟨inv.ordered, List.pairwise_singleton _ _, ?_⟩
      intro j mem k last
      obtain rfl := List.mem_singleton.mp last
      exact inv.queued j mem
    · exact inv.ordered
  · intro j mem
    rw [List.length_append, List.length_singleton]
    rcases arrives j mem with before | rfl
    · exact Nat.lt_succ_of_lt (inv.queued j before)
    · exact Nat.lt_succ_self _
  · intro id i at' found
    obtain ⟨within, older⟩ := inv.newer id i at' found
    refine ⟨?_, ?_⟩
    · rw [List.length_append, List.length_singleton]
      exact Nat.lt_succ_of_lt within
    · intro j mem
      rcases arrives j mem with before | rfl
      · exact older j before
      · exact within
  · intro id
    refine (inv.cells id).imp_right ?_
    rintro ⟨i, at', h', raw', stored, is, past, cell⟩
    exact ⟨i, at', h', raw', stored, is.append (h, raw) rfl, past, cell⟩

theorem Inv.store {s : State} (inv : Inv wire isoformat s) {i : Nat} {rest : List Nat}
    {h : HealthIndex} {raw : Raw} (queue : s.queue = i :: rest)
    (found : s.published[i]? = some (h, raw)) : Inv wire isoformat (s.store i h raw rest) := by
  have ordered := List.pairwise_cons.mp (queue ▸ inv.ordered)
  have sub : rest ⊆ s.queue := queue ▸ List.subset_cons_self _ _
  refine ⟨inv.encoded, ordered.2, fun j mem => inv.queued j (sub mem), ?_, ?_⟩
  · intro id k at' stored
    simp only [State.store, lastSegment_channelOf, Dict.get?_set] at stored
    split at stored
    · obtain ⟨rfl, rfl⟩ := Prod.mk.inj (Option.some.inj stored)
      exact ⟨inv.queued i (queue ▸ List.mem_cons_self), ordered.1⟩
    · obtain ⟨within, older⟩ := inv.newer id k at' stored
      exact ⟨within, fun j mem => older j (sub mem)⟩
  · intro id
    simp only [State.store, lastSegment_channelOf, Expiring.set]
    by_cases own : id = UUID.str h.locomotiveId
    · subst own
      exact .inr ⟨i, s.now, h, raw, Dict.get?_set_self _ _ _, ⟨found, rfl⟩, le_refl _,
        Dict.get?_set_self _ _ _⟩
    · have other : cacheKey id ≠ cacheKey (UUID.str h.locomotiveId) :=
        fun same => own (cacheKey_injective same)
      rw [Dict.get?_set_ne _ other, Dict.get?_set_ne _ own]
      exact inv.cells id

theorem Inv.step {s s' : State} {label : Label} (inv : Inv wire isoformat s)
    (step : Step wire isoformat s label s') : Inv wire isoformat s' := by
  cases step with
  | clock later le =>
      refine { inv with cells := ?_ }
      intro id
      refine (inv.cells id).imp_right ?_
      rintro ⟨i, at', h, raw, stored, is, past, cell⟩
      exact ⟨i, at', h, raw, stored, is, past.trans le, cell⟩
  | publish h raw encoded => exact inv.publish encoded
  | subscribe =>
      exact
        { inv with
          ordered := .nil
          queued := by simp
          newer := fun id i at' found => ⟨(inv.newer id i at' found).1, by simp⟩ }
  | disconnect =>
      exact
        { inv with
          ordered := .nil
          queued := by simp
          newer := fun id i at' found => ⟨(inv.newer id i at' found).1, by simp⟩ }
  | store i rest h raw queue found => exact inv.store queue found
  | storeFails i rest queue =>
      have sub : rest ⊆ s.queue := queue ▸ List.subset_cons_self _ _
      exact
        { inv with
          ordered := (List.pairwise_cons.mp (queue ▸ inv.ordered)).2
          queued := fun j mem => inv.queued j (sub mem)
          newer := fun id i at' found => ⟨(inv.newer id i at' found).1,
            fun j mem => (inv.newer id i at' found).2 j (sub mem)⟩ }

theorem reachable_inv {s : State} (reach : (healthCache wire isoformat).Reachable s) :
    Inv wire isoformat s := by
  apply reach.invariant
  · intro s start
    exact .init start
  · intro s label s' inv step
    exact inv.step step

/-! ## What a client is told -/

/-- The answer to a client of the gateway. -/
def State.answer (py : Conversions) (wire : WireLib) (str : Datetime → String) (s : State)
    (locomotiveId : String) (rows : List LatestReading) : Except GrpcError PyVal :=
  (getCurrentHealth py wire (s.redis.get? s.now (cacheKey locomotiveId))
    (fallback str s.now locomotiveId rows)).map healthToDict

/-- The cache has nothing to say, and the database answers. -/
def State.Uncached (py : Conversions) (wire : WireLib) (str : Datetime → String) (s : State)
    (locomotiveId : String) : Prop :=
  ∀ rows, s.answer py wire str locomotiveId rows =
    (fallback str s.now locomotiveId rows).map healthToDict

/-- The cache answers with message `i`, stored at most its time to live ago. -/
structure Cached (py : Conversions) (wire : WireLib) (isoformat str : Datetime → String)
    (s : State) (locomotiveId : String) (i : Nat) (answer : PyVal) : Prop where
  told : ∀ rows, s.answer py wire str locomotiveId rows = .ok answer
  published : ∃ h raw, s.IsOf i locomotiveId h raw ∧ answer = dump isoformat h
  stored : ∃ at', s.stored.get? locomotiveId = some (i, at') ∧ at' ≤ s.now ∧
    s.now ≤ at' + cacheTtl * 1000000

/-- Either the cache does not answer, or it does with the message that was stored last. -/
theorem Inv.answer {py : Conversions} (laws : py.Laws) (wireLaws : wire.Laws isoformat)
    (str : Datetime → String) {s : State} (inv : Inv wire isoformat s) (locomotiveId : String) :
    s.Uncached py wire str locomotiveId ∨
      ∃ i answer, Cached py wire isoformat str s locomotiveId i answer := by
  cases found : s.redis.get? s.now (cacheKey locomotiveId) with
  | none =>
      refine .inl fun rows => ?_
      rw [State.answer, found]
      rfl
  | some payload =>
      obtain ⟨deadline, cell, live⟩ := Expiring.get?_eq_some.mp found
      rcases inv.cells locomotiveId with ⟨none, -⟩ | ⟨i, at', h, raw, stored, is, past, cell'⟩
      · rw [cell] at none
        cases none
      · rw [cell] at cell'
        obtain ⟨rfl, rfl⟩ := Prod.mk.inj (Option.some.inj cell')
        refine .inr ⟨i, dump isoformat h, fun rows => ?_, ⟨h, payload, is, rfl⟩, at', stored, past,
          of_decide_eq_true live⟩
        rw [State.answer, found]
        exact getCurrentHealth_cached laws wireLaws
          (inv.encoded _ (List.mem_of_getElem? is.1)) _

/-- Messages are stored in the order of publication. -/
theorem stored_step {s s' : State} {label : Label} (inv : Inv wire isoformat s)
    (step : Step wire isoformat s label s') {id : String} {i : Nat} {at' : Datetime}
    (before : s.stored.get? id = some (i, at')) :
    ∃ i' at'', s'.stored.get? id = some (i', at'') ∧ i ≤ i' := by
  cases step with
  | store j rest h raw queue found =>
      by_cases own : id = lastSegment (channelOf h)
      · subst own
        have older := (inv.newer _ i at' before).2 j (queue ▸ List.mem_cons_self)
        exact ⟨j, s.now, Dict.get?_set_self _ _ _, older.le⟩
      · exact ⟨i, at', (Dict.get?_set_ne _ own _).trans before, le_refl _⟩
  | _ => exact ⟨i, at', before, le_refl _⟩

/-- What was stored stays, or makes way for a newer message. -/
theorem stored_run {s t : State} {labels : List Label}
    (reach : (healthCache wire isoformat).Reachable s)
    (run : (healthCache wire isoformat).Run s labels t) {id : String} {i : Nat} {at' : Datetime}
    (before : s.stored.get? id = some (i, at')) :
    ∃ i' at'', t.stored.get? id = some (i', at'') ∧ i ≤ i' := by
  have kept : Inv wire isoformat t ∧ ∃ i' at'', t.stored.get? id = some (i', at'') ∧ i ≤ i' := by
    refine run.invariant (I := fun s => Inv wire isoformat s ∧ ∃ i' at'',
      s.stored.get? id = some (i', at'') ∧ i ≤ i') ⟨reachable_inv reach, i, at', before, le_refl _⟩ ?_
    rintro s label s' - ⟨inv, i', at'', stored, le⟩ step
    obtain ⟨j, last, stored', le'⟩ := stored_step inv step stored
    exact ⟨inv.step step, j, last, stored', le.trans le'⟩
  exact kept.2

/-- **Answers from the cache are published.**  In every state, `GetCurrentHealth` answers as
without a cache, or with exactly the dictionary of an index that was published for the
locomotive and that the listener stored at most 60 seconds ago; and in any later state an
answer from the cache is of that index or of one published after it. -/
theorem cached_health_published {py : Conversions} (laws : py.Laws)
    (wireLaws : wire.Laws isoformat) (str : Datetime → String) {s : State}
    (reach : (healthCache wire isoformat).Reachable s) (locomotiveId : String) :
    s.Uncached py wire str locomotiveId ∨
      ∃ i answer, Cached py wire isoformat str s locomotiveId i answer ∧
        ∀ labels t, (healthCache wire isoformat).Run s labels t →
          t.Uncached py wire str locomotiveId ∨
            ∃ j later, i ≤ j ∧ Cached py wire isoformat str t locomotiveId j later := by
  rcases (reachable_inv reach).answer laws wireLaws str locomotiveId with none | ⟨i, answer, cached⟩
  · exact .inl none
  · refine .inr ⟨i, answer, cached, ?_⟩
    intro labels t run
    have inv := reachable_inv (run.reachable reach)
    refine (inv.answer laws wireLaws str locomotiveId).imp_right ?_
    rintro ⟨j, later, cached'⟩
    obtain ⟨at', stored, -⟩ := cached.stored
    obtain ⟨at'', stored', -⟩ := cached'.stored
    obtain ⟨j', last, stored'', le⟩ := stored_run reach run stored
    rw [stored'] at stored''
    obtain ⟨rfl, -⟩ := Prod.mk.inj (Option.some.inj stored'')
    exact ⟨j, later, le, cached'⟩

/-! ## Nothing lost -/

/-- The listener subscribes before anything is published, stays, and stores what it gets. -/
def Lossless (s : State) (label : Label) : Prop :=
  (label = .publish → s.subscribed = true) ∧ (label = .subscribe → s.subscribed = false) ∧
    label ≠ .disconnect ∧ label ≠ .storeFails

/-- Each message is still to come, or it or a newer one of the locomotive is stored. -/
structure Complete (s : State) : Prop where
  started : s.subscribed = false → s.published = []
  covered : ∀ j id h raw, s.IsOf j id h raw →
    j ∈ s.queue ∨ ∃ i at', s.stored.get? id = some (i, at') ∧ j ≤ i

theorem Complete.step {s s' : State} {label : Label} (inv : Inv wire isoformat s)
    (complete : Complete s) (lossless : Lossless s label)
    (step : Step wire isoformat s label s') : Complete s' := by
  cases step with
  | clock later le => exact ⟨complete.started, complete.covered⟩
  | publish h raw encoded =>
      have subscribed := lossless.1 rfl
      refine ⟨fun unsubscribed => ?_, ?_⟩
      · rw [subscribed] at unsubscribed
        cases unsubscribed
      · intro j id h' raw' is
        simp only [subscribed, if_true]
        by_cases within : j < s.published.length
        · have before : s.IsOf j id h' raw' :=
            ⟨by rw [← is.1]; exact (List.getElem?_append_left within).symm, is.2⟩
          exact (complete.covered j id h' raw' before).imp_left (List.mem_append_left _)
        · have lt : j < (s.published ++ [(h, raw)]).length :=
            (List.getElem?_eq_some_iff.mp is.1).1
          rw [List.length_append, List.length_singleton] at lt
          obtain rfl : j = s.published.length := by omega
          exact .inl (List.mem_append_right _ (List.mem_singleton_self _))
  | subscribe =>
      refine ⟨fun unsubscribed => absurd unsubscribed (by simp), ?_⟩
      intro j id h raw is
      have none := complete.started (lossless.2.1 rfl)
      have found : s.published[j]? = some (h, raw) := is.1
      rw [none] at found
      cases found
  | disconnect => exact absurd rfl lossless.2.2.1
  | store i rest h raw queue found =>
      refine ⟨complete.started, ?_⟩
      intro j id h' raw' is
      simp only [State.store, Dict.get?_set]
      rcases complete.covered j id h' raw' is with waiting | ⟨k, at', stored, le⟩
      · rw [queue] at waiting
        rcases List.mem_cons.mp waiting with rfl | later
        · obtain ⟨rfl, rfl⟩ := Prod.mk.inj (Option.some.inj (found.symm.trans is.1))
          refine .inr ⟨j, s.now, if_pos ?_, le_refl _⟩
          rw [lastSegment_channelOf]
          exact is.2.symm
        · exact .inl later
      · right
        by_cases own : id = lastSegment (channelOf h)
        · have older := (inv.newer id k at' stored).2 i (queue ▸ List.mem_cons_self)
          exact ⟨i, s.now, if_pos own, le.trans older.le⟩
        · exact ⟨k, at', by rw [if_neg own]; exact stored, le⟩
  | storeFails i rest queue => exact absurd rfl lossless.2.2.2

theorem reachable_complete {s : State}
    (reach : ((healthCache wire isoformat).where' Lossless).Reachable s) :
    Inv wire isoformat s ∧ Complete s := by
  apply reach.invariant
  · intro s start
    obtain ⟨-, -, -, published, -⟩ := id start
    refine ⟨.init start, fun _ => published, ?_⟩
    intro j id h raw is
    have found : s.published[j]? = some (h, raw) := is.1
    rw [published] at found
    cases found
  · intro s label s' ⟨inv, complete⟩ ⟨lossless, step⟩
    exact ⟨inv.step step, complete.step inv lossless step⟩

/-- **The latest index.**  While the listener loses nothing, and once it has caught up, the
cache holds the last index that was published for the locomotive, and answers with it for 60
seconds. -/
theorem cached_health_latest {py : Conversions} (laws : py.Laws)
    (wireLaws : wire.Laws isoformat) (str : Datetime → String) {s : State}
    (reach : ((healthCache wire isoformat).where' Lossless).Reachable s) (caught : s.queue = [])
    {j : Nat} {locomotiveId : String} {h : HealthIndex} {raw : Raw}
    (is : s.IsOf j locomotiveId h raw)
    (last : ∀ k h' raw', s.IsOf k locomotiveId h' raw' → k ≤ j) :
    ∃ at', s.stored.get? locomotiveId = some (j, at') ∧
      (s.now ≤ at' + cacheTtl * 1000000 →
        ∀ rows, s.answer py wire str locomotiveId rows = .ok (dump isoformat h)) := by
  obtain ⟨inv, complete⟩ := reachable_complete reach
  obtain ⟨i, at', stored, le⟩ : ∃ i at', s.stored.get? locomotiveId = some (i, at') ∧ j ≤ i := by
    refine (complete.covered j locomotiveId h raw is).resolve_left ?_
    rw [caught]
    exact List.not_mem_nil
  rcases inv.cells locomotiveId with ⟨-, none⟩ | ⟨i', at'', h', raw', stored', is', -, cell⟩
  · rw [stored] at none
    cases none
  · rw [stored] at stored'
    obtain ⟨rfl, rfl⟩ := Prod.mk.inj (Option.some.inj stored')
    obtain rfl := Nat.le_antisymm (last i h' raw' is') le
    obtain ⟨rfl, rfl⟩ := Prod.mk.inj (Option.some.inj (is.1.symm.trans is'.1))
    refine ⟨at', stored, ?_⟩
    intro live rows
    have found : s.redis.get? s.now (cacheKey locomotiveId) = some raw :=
      Expiring.get?_eq_some.mpr ⟨_, cell, decide_eq_true live⟩
    rw [State.answer, found]
    exact getCurrentHealth_cached laws wireLaws (inv.encoded _ (List.mem_of_getElem? is.1)) _

end

/-! ## One index -/

/-- `speedingHealth`, as the processor publishes it. -/
def speedingIndex : HealthIndex :=
  ⟨1, .te33a, 85, "Норма", [⟨.speedActual, 130, "km/h", 15, 100, 100⟩], 0, 1767225600000000⟩

def zulu : Datetime → String := fun _ => "2026-01-01T00:00:00Z"

def speedingBytes : Raw := DbWriter.pack (dump zulu speedingIndex)

/-- The library, on the one index. -/
def indexWire : WireLib where
  encode v :=
    if v = dump zulu speedingIndex then .ok speedingBytes
    else .error { kind := "MsgpackEncodeError", text := "unknown value" }
  decode raw :=
    if raw = speedingBytes then .ok (dump zulu speedingIndex)
    else .error { kind := "MsgpackDecodeError", text := "unknown message" }

theorem indexWire_laws : indexWire.Laws zulu where
  back h raw encoded := by
    simp only [indexWire] at encoded ⊢
    split at encoded
    · rename_i same
      obtain rfl := Except.ok.inj encoded
      rw [if_pos rfl, same]
    · cases encoded
  empty := by
    have nonempty : ([] : Raw) ≠ speedingBytes := by decide +kernel
    refine ⟨{ kind := "MsgpackDecodeError", text := "unknown message" }, ?_⟩
    simp only [indexWire, if_neg nonempty]

/-- `str` and `float` of what they leave as it is. -/
def plainConversions : Conversions where
  str
    | .str s => s
    | _ => ""
  float
    | .float f => .ok f
    | .int i => .ok i
    | _ => .error { kind := "TypeError", text := "float() argument must be a number" }
  stringField
    | .str s => .ok s
    | _ => .error { kind := "TypeError", text := "bad argument type for built-in operation" }
  doubleField
    | .float f => .ok f
    | .int i => .ok i
    | _ => .error { kind := "TypeError", text := "must be real number" }

theorem plainConversions_laws : plainConversions.Laws where
  str _ := rfl
  float _ := rfl
  stringField _ := rfl
  doubleField _ := rfl

/-- Published to a listener that stores it. -/
theorem index_stored : ∃ s, ((healthCache indexWire zulu).where' Lossless).Reachable s ∧
    s.now = 0 ∧ s.queue = [] ∧ s.published = [(speedingIndex, speedingBytes)] ∧
    s.stored.get? (UUID.str 1) = some (0, 0) := by
  have initial : ((healthCache indexWire zulu).where' Lossless).Reachable
      ⟨0, Expiring.empty, false, [], [], Dict.empty⟩ := .init ⟨rfl, rfl, rfl, rfl, rfl⟩
  have listening := initial.guarded (Step.subscribe _) ⟨by simp, fun _ => rfl, by simp, by simp⟩
  have encoded : indexWire.encode (dump zulu speedingIndex) = .ok speedingBytes := by
    simp only [indexWire, if_true]
  have published := listening.guarded (Step.publish _ speedingIndex speedingBytes encoded)
    ⟨fun _ => rfl, by simp, by simp, by simp⟩
  have stored := published.guarded (Step.store _ 0 [] speedingIndex speedingBytes rfl rfl)
    ⟨by simp, by simp, by simp, by simp⟩
  refine ⟨_, stored, rfl, rfl, rfl, ?_⟩
  have own : lastSegment (channelOf speedingIndex) = UUID.str 1 := lastSegment_channelOf _
  simp only [State.store, own, Dict.get?_set_self]

theorem cached_health_published_speeding : ∃ s, s.stored.get? (UUID.str 1) = some (0, 0) ∧
    (s.Uncached plainConversions indexWire zulu (UUID.str 1) ∨
      ∃ i answer, Cached plainConversions indexWire zulu zulu s (UUID.str 1) i answer ∧
        ∀ labels t, (healthCache indexWire zulu).Run s labels t →
          t.Uncached plainConversions indexWire zulu (UUID.str 1) ∨
            ∃ j later, i ≤ j ∧ Cached plainConversions indexWire zulu zulu t (UUID.str 1) j later) := by
  obtain ⟨s, guarded, -, -, -, stored⟩ := index_stored
  have reach : (healthCache indexWire zulu).Reachable s := by
    apply guarded.invariant
    · intro s start
      exact .init start
    · intro s label s' reach step
      exact reach.step step.2
  exact ⟨s, stored,
    cached_health_published plainConversions_laws indexWire_laws zulu reach (UUID.str 1)⟩

theorem cached_health_latest_speeding : ∃ s : State, s.queue = [] ∧ s.now = 0 ∧
    ∃ at', s.stored.get? (UUID.str 1) = some (0, at') ∧
      (s.now ≤ at' + cacheTtl * 1000000 → ∀ rows,
        s.answer plainConversions indexWire zulu (UUID.str 1) rows = .ok (dump zulu speedingIndex)) := by
  obtain ⟨s, reach, now, queue, published, -⟩ := index_stored
  have is : s.IsOf 0 (UUID.str 1) speedingIndex speedingBytes := ⟨by rw [published]; rfl, rfl⟩
  refine ⟨s, queue, now, cached_health_latest plainConversions_laws indexWire_laws zulu reach queue
    is ?_⟩
  intro k h raw is'
  have lt := (List.getElem?_eq_some_iff.mp is'.1).1
  rw [published] at lt
  exact Nat.lt_succ_iff.mp lt

end HealthCache

end LocoTwin.Analytics
