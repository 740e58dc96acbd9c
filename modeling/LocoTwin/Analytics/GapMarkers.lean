/-
# Analytics.GapMarkers -- one marker in every gap, and none elsewhere

`insertGapMarkers` puts a marker between two rows that are more than three buckets apart, at
the midpoint of their times.  A datetime holds whole microseconds only, so the midpoint of
two datetimes may be rounded; that moves it past a row only where the rows are a microsecond
apart (`marker_between`).

* `markers_placed`: the rows with their markers are in order, lose nothing, and have one
  marker in each gap.
-/
import LocoTwin.Lib.Between
import LocoTwin.Analytics.Downsampling

namespace LocoTwin.Analytics

open LocoTwin.Lib LocoTwin.Shared

set_option autoImplicit false

section

variable (fromisoformat : String → Datetime)

/-- The rows are more than three buckets apart. -/
def Gap (bucketSizeSeconds : PyFloat) (prev cur : BucketRow) : Prop :=
  bucketSizeSeconds * 3 < tsToEpoch fromisoformat cur.bucket - tsToEpoch fromisoformat prev.bucket

instance (bucketSizeSeconds : PyFloat) (prev cur : BucketRow) :
    Decidable (Gap fromisoformat bucketSizeSeconds prev cur) :=
  inferInstanceAs (Decidable (_ < _))

/-- Time arithmetic is exact, in that no marker is rounded away from its midpoint; where a
gap is a microsecond at least, the rounding does no harm. -/
def ExactTimes (rows : List BucketRow) (bucketSizeSeconds : PyFloat) : Prop :=
  1 / 10 ^ 6 ≤ bucketSizeSeconds * 3 ∨
    ∀ (i : ℕ) prev cur, rows[i]? = some prev → rows[i + 1]? = some cur →
      Gap fromisoformat bucketSizeSeconds prev cur →
      tsToEpoch fromisoformat (gapMarker fromisoformat prev cur).bucket =
        (tsToEpoch fromisoformat prev.bucket + tsToEpoch fromisoformat cur.bucket) / 2

/-- What the markers make of the rows. -/
structure MarkersPlaced (rows : List BucketRow) (bucketSizeSeconds : PyFloat)
    (out : List BucketRow) : Prop where
  ordered : TimeOrdered fromisoformat out
  erased : out.filter (fun r => r.avgValue.isSome) = rows
  ends : out.head? = rows.head? ∧ out.getLast? = rows.getLast?
  /-- Between two neighbours of the input there is one marker or none. -/
  placed : ∀ (i : ℕ) prev cur, rows[i]? = some prev → rows[i + 1]? = some cur →
    ∃ before markers after, out = before ++ prev :: (markers ++ cur :: after) ∧
      (∀ r ∈ markers, r.avgValue = none) ∧
      markers.length = if Gap fromisoformat bucketSizeSeconds prev cur then 1 else 0

def Earlier (r s : BucketRow) : Prop :=
  tsToEpoch fromisoformat r.bucket < tsToEpoch fromisoformat s.bucket

instance : Trans (Earlier fromisoformat) (Earlier fromisoformat) (Earlier fromisoformat) :=
  ⟨lt_trans⟩

/-- What `insertGapMarkers` puts between two rows. -/
def markersOf (bucketSizeSeconds : PyFloat) (prev cur : BucketRow) : List BucketRow :=
  if Gap fromisoformat bucketSizeSeconds prev cur then [gapMarker fromisoformat prev cur] else []

theorem withMarkers_eq (bucketSizeSeconds : PyFloat) (prev : BucketRow) (rest : List BucketRow) :
    withMarkers fromisoformat (bucketSizeSeconds * 3) prev rest =
      between (markersOf fromisoformat bucketSizeSeconds) prev rest := by
  induction rest generalizing prev with
  | nil => rfl
  | cons cur rest ih =>
      rw [withMarkers, between, markersOf, ih]
      by_cases gap : Gap fromisoformat bucketSizeSeconds prev cur
      · rw [if_pos gap]
        exact if_pos gap
      · rw [if_neg gap]
        exact if_neg gap

theorem insertGapMarkers_cons {bucketSizeSeconds : PyFloat} (pos : 0 < bucketSizeSeconds)
    (first : BucketRow) (rest : List BucketRow) :
    insertGapMarkers fromisoformat (first :: rest) bucketSizeSeconds =
      first :: between (markersOf fromisoformat bucketSizeSeconds) first rest := by
  rw [← withMarkers_eq]
  exact if_neg (not_le.mpr pos)

end

section

variable {fromisoformat : String → Datetime} {bucketSizeSeconds : PyFloat}

theorem markersOf_none (prev cur : BucketRow) :
    ∀ r ∈ markersOf fromisoformat bucketSizeSeconds prev cur, r.avgValue = none := by
  unfold markersOf
  split
  · intro r mem
    rw [List.mem_singleton.mp mem]
    rfl
  · intro r mem
    cases mem

theorem length_markersOf (prev cur : BucketRow) :
    (markersOf fromisoformat bucketSizeSeconds prev cur).length =
      if Gap fromisoformat bucketSizeSeconds prev cur then 1 else 0 := by
  unfold markersOf
  split <;> rfl

/-- A midpoint that is rounded to the microsecond stays between rows more than a microsecond
apart. -/
theorem fromtimestamp_between {a b : PyFloat} (wide : 1 / 10 ^ 6 < b - a) :
    a < timestamp (fromtimestamp ((a + b) / 2)) ∧ timestamp (fromtimestamp ((a + b) / 2)) < b := by
  obtain ⟨low, high⟩ := roundHalfEven_near ((a + b) / 2 * 10 ^ 6)
  unfold timestamp fromtimestamp
  constructor
  · rw [lt_div_iff₀ (by norm_num)]
    linarith
  · rw [div_lt_iff₀ (by norm_num)]
    linarith

/-- The marker stands between its rows. -/
theorem marker_between {prev cur : BucketRow} (pos : 0 < bucketSizeSeconds)
    (gap : Gap fromisoformat bucketSizeSeconds prev cur)
    (exact' : 1 / 10 ^ 6 ≤ bucketSizeSeconds * 3 ∨
      tsToEpoch fromisoformat (gapMarker fromisoformat prev cur).bucket =
        (tsToEpoch fromisoformat prev.bucket + tsToEpoch fromisoformat cur.bucket) / 2) :
    tsToEpoch fromisoformat prev.bucket <
        tsToEpoch fromisoformat (gapMarker fromisoformat prev cur).bucket ∧
      tsToEpoch fromisoformat (gapMarker fromisoformat prev cur).bucket <
        tsToEpoch fromisoformat cur.bucket := by
  have apart : bucketSizeSeconds * 3 <
      tsToEpoch fromisoformat cur.bucket - tsToEpoch fromisoformat prev.bucket := gap
  have midpoint (exact' : tsToEpoch fromisoformat (gapMarker fromisoformat prev cur).bucket =
      (tsToEpoch fromisoformat prev.bucket + tsToEpoch fromisoformat cur.bucket) / 2) :
      tsToEpoch fromisoformat prev.bucket <
          tsToEpoch fromisoformat (gapMarker fromisoformat prev cur).bucket ∧
        tsToEpoch fromisoformat (gapMarker fromisoformat prev cur).bucket <
          tsToEpoch fromisoformat cur.bucket := by
    rw [exact']
    constructor <;> linarith
  rcases exact' with wide | exact'
  · cases bucket : prev.bucket with
    | datetime t =>
        have rounded : tsToEpoch fromisoformat (gapMarker fromisoformat prev cur).bucket =
            timestamp (fromtimestamp ((tsToEpoch fromisoformat prev.bucket +
              tsToEpoch fromisoformat cur.bucket) / 2)) := by
          simp [gapMarker, bucket, tsToEpoch]
        rw [← bucket, rounded]
        exact fromtimestamp_between (wide.trans_lt apart)
    | number x =>
        rw [← bucket]
        exact midpoint (by simp [gapMarker, bucket, tsToEpoch])
    | text s =>
        rw [← bucket]
        exact midpoint (by simp [gapMarker, bucket, tsToEpoch])
  · exact midpoint exact'

theorem timeOrdered_iff_isChain {rows : List BucketRow} :
    TimeOrdered fromisoformat rows ↔ rows.IsChain (Earlier fromisoformat) :=
  List.isChain_iff_pairwise.symm

/-- Two neighbours with their marker, where they have one, are in order. -/
theorem markersOf_ordered {prev cur : BucketRow} (pos : 0 < bucketSizeSeconds)
    (lt : tsToEpoch fromisoformat prev.bucket < tsToEpoch fromisoformat cur.bucket)
    (exact' : Gap fromisoformat bucketSizeSeconds prev cur →
      1 / 10 ^ 6 ≤ bucketSizeSeconds * 3 ∨
        tsToEpoch fromisoformat (gapMarker fromisoformat prev cur).bucket =
          (tsToEpoch fromisoformat prev.bucket + tsToEpoch fromisoformat cur.bucket) / 2) :
    (prev :: markersOf fromisoformat bucketSizeSeconds prev cur ++ [cur]).IsChain
      (Earlier fromisoformat) := by
  unfold markersOf
  split
  case isTrue gap =>
    obtain ⟨after, before⟩ := marker_between pos gap (exact' gap)
    exact .cons_cons after (.cons_cons before (.singleton cur))
  case isFalse => exact .cons_cons lt (.singleton cur)

/-- **Gap markers are placed exactly**: for every series of rows in order of time, whatever
the spacing and the bucket size. -/
theorem markers_placed {rows : List BucketRow} (times : TimeOrdered fromisoformat rows)
    (valued : ∀ r ∈ rows, r.avgValue ≠ none) (pos : 0 < bucketSizeSeconds)
    (exact' : ExactTimes fromisoformat rows bucketSizeSeconds) :
    MarkersPlaced fromisoformat rows bucketSizeSeconds
      (insertGapMarkers fromisoformat rows bucketSizeSeconds) := by
  cases rows with
  | nil => exact ⟨.nil, rfl, ⟨rfl, rfl⟩, fun _ _ _ none' => nomatch none'⟩
  | cons first rest =>
      have isSome : ∀ r ∈ first :: rest, r.avgValue.isSome = true :=
        fun r mem => Option.isSome_iff_ne_none.mpr (valued r mem)
      rw [insertGapMarkers_cons fromisoformat pos]
      constructor
      case ordered =>
        refine timeOrdered_iff_isChain.mpr (isChain_between ?_)
        intro i prev cur at_i next
        obtain ⟨_, eq⟩ := List.getElem?_eq_some_iff.mp at_i
        obtain ⟨_, eq'⟩ := List.getElem?_eq_some_iff.mp next
        have lt := (timeOrdered_iff_isChain.mp times).getElem i (by omega)
        rw [eq, eq'] at lt
        exact markersOf_ordered pos lt
          fun gap => exact'.imp_right fun exact' => exact' i prev cur at_i next gap
      case erased =>
        have kept : (first :: between (markersOf fromisoformat bucketSizeSeconds) first rest).filter
            (fun r => r.avgValue.isSome) = first ::
              (between (markersOf fromisoformat bucketSizeSeconds) first rest).filter
                (fun r => r.avgValue.isSome) :=
          List.filter_cons_of_pos (isSome first List.mem_cons_self)
        rw [kept, filter_between]
        · intro prev cur r mem
          rw [markersOf_none prev cur r mem]
          rfl
        · exact fun r mem => isSome r (List.mem_cons_of_mem first mem)
      case ends => exact ⟨rfl, getLast?_between first rest⟩
      case placed =>
        intro i prev cur at_i next
        obtain ⟨before, after, split⟩ :=
          between_split (markersOf fromisoformat bucketSizeSeconds) at_i next
        exact ⟨before, _, after, split, markersOf_none prev cur, length_markersOf prev cur⟩

theorem markers_placed_brokenLine :
    MarkersPlaced (fun _ => 0) [seriesRow 0 80, seriesRow 60 82, seriesRow 300 81] 60
      (insertGapMarkers (fun _ => 0) [seriesRow 0 80, seriesRow 60 82, seriesRow 300 81] 60) :=
  markers_placed (by decide +kernel) (by decide +kernel) (by norm_num) (.inl (by norm_num))

end

end LocoTwin.Analytics
