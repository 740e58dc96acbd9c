/-
# Analytics.Aggregator -- the state of the fleet, and what is published about it

The listener files the last health index of each locomotive and records the changes of
category; every round of the publisher drains the changes and publishes them with a summary,
in one pipeline.  The two tasks meet at the await of `pipe.execute()`, which is where the
drained changes are.

`str()` and `float()` of what a message holds are defined where the language says so in a
line; the texts of floats and containers, and the reading of texts as floats, are the
parameter `Conversions`.
-/
import LocoTwin.Lib.Binary64
import LocoTwin.Lib.Changes
import LocoTwin.Lib.Dict
import LocoTwin.Lib.Transition
import LocoTwin.Shared.Wire
import Mathlib.Data.List.Sort

namespace LocoTwin.Analytics

open LocoTwin.Lib LocoTwin.Shared

set_option autoImplicit false

structure Conversions where
  /-- `repr` of a float, of bytes, of a list or of a dictionary. -/
  repr : PyVal → String
  /-- `float(text)`, where the text is a number. -/
  parse : String → Option PyFloat

namespace Conversions

def str (conv : Conversions) : PyVal → String
  | .none => "None"
  | .bool true => "True"
  | .bool false => "False"
  | .int i => toString i
  | .str s => s
  | v => conv.repr v

def float (conv : Conversions) : PyVal → Except PyError PyFloat
  | .float f => .ok f
  | .int i => .ok i
  | .bool b => .ok (if b then 1 else 0)
  | .str s =>
      match conv.parse s with
      | some f => .ok f
      | none => .error { kind := "ValueError", text := "could not convert string to float" }
  | _ => .error
      { kind := "TypeError", text := "float() argument must be a string or a real number" }

end Conversions

/-- `data.get(name, default)` -/
def getOr (data : PyVal) (name : String) (default : PyVal) : Except PyError PyVal :=
  match data with
  | .dict entries => .ok ((entries.lookup name).getD default)
  | _ => .error { kind := "AttributeError", text := "object has no attribute 'get'" }

structure LocoState where
  locomotiveId : String
  locomotiveType : String
  score : PyFloat
  category : String
  updatedAt : Datetime
  deriving DecidableEq

structure Change where
  locomotiveId : String
  locomotiveType : String
  oldCategory : String
  newCategory : String
  score : PyFloat
  timestamp : Datetime
  deriving DecidableEq

structure FleetAggregator where
  fleet : Dict String LocoState
  changes : List Change
  deriving DecidableEq

namespace FleetAggregator

/-- The part of `_update_state` after the values have been read. -/
def store (agg : FleetAggregator) (locoId locomotiveType category : String) (score : PyFloat)
    (now : Datetime) : FleetAggregator :=
  let changes :=
    match agg.fleet.get? locoId with
    | none => agg.changes
    | some old =>
        if old.category = category then agg.changes
        else agg.changes ++ [⟨locoId, locomotiveType, old.category, category, score, now⟩]
  { fleet := agg.fleet.set locoId ⟨locoId, locomotiveType, score, category, now⟩, changes }

/-- The locomotive and the category of a message that is filed. -/
structure Reading where
  locoId : String
  locomotiveType : String
  score : PyFloat
  category : String
  deriving DecidableEq

/-- The values `_update_state` reads, `none` where it returns for an empty id. -/
def read (conv : Conversions) (data : PyVal) : Except PyError (Option Reading) := do
  let locoId := conv.str (← getOr data "locomotive_id" (.str ""))
  if locoId = "" then return none
  let score ← conv.float (← getOr data "overall_score" (.int 0))
  let category := conv.str (← getOr data "category" (.str ""))
  let locomotiveType := conv.str (← getOr data "locomotive_type" (.str ""))
  return some { locoId, locomotiveType, score, category }

/-- `_update_state`, and the `except` of the listener that logs what it raises. -/
def updateState (conv : Conversions) (agg : FleetAggregator) (data : PyVal) (now : Datetime) :
    FleetAggregator :=
  match read conv data with
  | .ok (some r) => agg.store r.locoId r.locomotiveType r.category r.score now
  | _ => agg

def drainChanges (agg : FleetAggregator) : List Change × FleetAggregator :=
  (agg.changes, { agg with changes := [] })

/-! ## The summary -/

structure Worst where
  locomotiveId : String
  locomotiveType : String
  score : PyFloat
  category : String
  deriving DecidableEq

structure Summary where
  fleetSize : Nat
  avgScore : PyFloat
  norma : Nat
  vnimanie : Nat
  kritichno : Nat
  worst10 : List Worst
  timestamp : Datetime
  deriving DecidableEq

/-- `_CATEGORY_NORMA` -/
def categoryNorma : String := "Норма"

/-- `_CATEGORY_VNIMANIE` -/
def categoryVnimanie : String := "Внимание"

/-- Its floats are doubles: the scores are added up in the order of the fleet. -/
def computeSummary (agg : FleetAggregator) (now : Datetime) : Summary :=
  let states := agg.fleet.entries.map Prod.snd
  let worst := states.insertionSort fun s t => s.score ≤ t.score
  { fleetSize := states.length
    avgScore := binary64.roundTo 1 (binary64.div (binary64.sum (states.map LocoState.score))
      (binary64.round (max states.length 1 : Nat)))
    norma := states.countP fun s => s.category == categoryNorma
    vnimanie := states.countP fun s => s.category == categoryVnimanie
    kritichno := states.countP fun s =>
      s.category != categoryNorma && s.category != categoryVnimanie
    worst10 := (worst.take 10).map fun s =>
      ⟨s.locomotiveId, s.locomotiveType, binary64.roundTo 1 s.score, s.category⟩
    timestamp := now }

/-- Every locomotive counts in one category. -/
theorem computeSummary_categories (agg : FleetAggregator) (now : Datetime) :
    (agg.computeSummary now).norma + (agg.computeSummary now).vnimanie +
      (agg.computeSummary now).kritichno = (agg.computeSummary now).fleetSize := by
  unfold computeSummary
  dsimp only
  induction agg.fleet.entries.map Prod.snd with
  | nil => rfl
  | cons s states ih =>
      have apart : categoryNorma ≠ categoryVnimanie := by decide
      simp only [List.countP_cons, List.length_cons] at ih ⊢
      by_cases norma : s.category = categoryNorma
      · simp [norma, apart]
        omega
      · by_cases vnimanie : s.category = categoryVnimanie
        · simp [vnimanie, apart.symm]
          omega
        · simp [norma, vnimanie]
          omega

end FleetAggregator

/-! ## The two tasks -/

inductive Publication where
  /-- On `fleet:summary`. -/
  | summary (summary : FleetAggregator.Summary)
  /-- On `fleet:changes`. -/
  | changes (changes : List Change)
  deriving DecidableEq

structure AggregatorState where
  agg : FleetAggregator
  /-- The pipeline at the await of `pipe.execute()`. -/
  executing : Option (FleetAggregator.Summary × List Change)
  /-- What Redis has published, in order. -/
  published : List Publication
  /-- The locomotives and categories filed so far, which the code does not keep. -/
  filed : List (String × String)

/-- The commands of a pipeline. -/
def pipeline (summary : FleetAggregator.Summary) (changes : List Change) : List Publication :=
  .summary summary :: if changes = [] then [] else [.changes changes]

inductive AggregatorEvent where
  | message (data : PyVal) (now : Datetime)
  | round (now : Datetime)
  | executed
  /-- `pipe.execute()` raises; Redis may have published the commands. -/
  | raised (applied : Bool)

inductive AggregatorStep (conv : Conversions) :
    AggregatorState → AggregatorEvent → AggregatorState → Prop where
  | message (s : AggregatorState) (data : PyVal) (now : Datetime) :
      AggregatorStep conv s (.message data now)
        { s with
          agg := s.agg.updateState conv data now
          filed := match FleetAggregator.read conv data with
            | .ok (some r) => s.filed ++ [(r.locoId, r.category)]
            | _ => s.filed }
  /-- An empty fleet is not published. -/
  | round (s : AggregatorState) (now : Datetime) : s.executing = none →
      s.agg.fleet.keys ≠ [] →
      AggregatorStep conv s (.round now)
        { s with
          agg := s.agg.drainChanges.2
          executing := some (s.agg.computeSummary now, s.agg.drainChanges.1) }
  | executed (s : AggregatorState) (summary : FleetAggregator.Summary) (changes : List Change) :
      s.executing = some (summary, changes) →
      AggregatorStep conv s .executed
        { s with executing := none, published := s.published ++ pipeline summary changes }
  /-- The `except` of the publisher logs it and goes on to the next round. -/
  | raised (s : AggregatorState) (summary : FleetAggregator.Summary) (changes : List Change)
      (applied : Bool) : s.executing = some (summary, changes) →
      AggregatorStep conv s (.raised applied)
        { s with
          executing := none
          published := s.published ++ if applied then pipeline summary changes else [] }

/-- The listener and the publisher of a new aggregator. -/
def fleetAggregator (conv : Conversions) : System AggregatorState AggregatorEvent where
  init s := s = ⟨⟨Dict.empty, []⟩, none, [], []⟩
  step := AggregatorStep conv

end LocoTwin.Analytics
