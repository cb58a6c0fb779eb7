import SiteAnalytics.Axis.Basic
import SiteAnalytics.Proofs.Bucket.Index

/-!
# The points of an axis

The walk from bucket to bucket lists the first seconds of buckets with consecutive numbers
(`pointsFrom_eq`), and the points of an axis are those of all its buckets (`points_eq`).  Each of
them has a label in UTC, unless it lies in the last hour of the calendar; then there is an axis
(`exists_generate?_eq`).
-/

namespace SiteAnalytics

open Calendar DateTime

namespace Bucket

/-- Counting goes by the numbers of the buckets, wherever in them the two times lie. -/
theorem countBetween_of_index_le (b : Bucket) {start stop : DateTime}
    (h : b.index start ≤ b.index stop) :
    b.countBetween start stop = b.index stop - b.index start + 1 := by
  have hsnapped : b.countBetween start stop =
      b.countBetween (b.startOf start) (b.startOf stop) := by
    simp only [countBetween, startOf_startOf]
  have hle : (b.startOf start).second ≤ (b.startOf stop).second := by
    rw [startOf_eq, startOf_eq]
    exact b.firstSecond_strictMono.monotone h
  rw [hsnapped, countBetween_eq b hle, index_startOf, index_startOf]

/-- The buckets between two of the calendar begin in the calendar. -/
theorem inCalendar_firstSecond_of_between {b : Bucket} {start stop : DateTime}
    (hstart : start.inCalendar = true) (hstop : stop.inCalendar = true) {i : Int}
    (h₁ : b.index start ≤ i) (h₂ : i ≤ b.index stop) :
    (ofSecond (b.firstSecond i)).inCalendar = true := by
  have hfirst := inCalendar_iff.mp (inCalendar_firstSecond (b := b) hstart)
  have hlast := inCalendar_iff.mp (inCalendar_firstSecond (b := b) hstop)
  have hlo := b.firstSecond_strictMono.monotone h₁
  have hhi := b.firstSecond_strictMono.monotone h₂
  rw [inCalendar_iff]
  simp only [ofSecond_second] at *
  omega

end Bucket

namespace Axis

/-! ### The walk -/

/-- A walk lists consecutive buckets up to the last one, or as many as its bound allows. -/
theorem pointsFrom_eq (b : Bucket) {last : Int} (n : Nat) {i : Int}
    (hcalendar : ∀ j, i ≤ j → j ≤ last → (ofSecond (b.firstSecond j)).inCalendar = true) :
    pointsFrom b (ofSecond (b.firstSecond last)) (ofSecond (b.firstSecond i)) n =
      (List.range (min n (last - i + 1).toNat)).map fun k : Nat =>
        ofSecond (b.firstSecond (i + k)) := by
  induction n generalizing i with
  | zero => rw [Nat.zero_min]; rfl
  | succ n ih =>
    have hlt : ofSecond (b.firstSecond last) < ofSecond (b.firstSecond i) ↔ last < i := by
      rw [lt_ofSecond_iff, ofSecond_second, b.firstSecond_strictMono.lt_iff_lt]
    rw [pointsFrom, b.next?_firstSecond]
    by_cases hpassed : last < i
    · have hnone : min (n + 1) (last - i + 1).toNat = 0 := by omega
      rw [if_pos (hlt.mpr hpassed), hnone, List.range_zero, List.map_nil]
    · have hcount : min (n + 1) (last - i + 1).toNat = min n (last - (i + 1) + 1).toNat + 1 := by
        omega
      have hfirst : i + ((0 : Nat) : Int) = i := add_zero i
      rw [if_neg (mt hlt.mp hpassed), hcount, List.range_succ_eq_map, List.map_cons, List.map_map,
        hfirst]
      congr 1
      have hrest : (List.range (min n (last - (i + 1) + 1).toNat)).map
          ((fun k : Nat => ofSecond (b.firstSecond (i + k))) ∘ Nat.succ) =
          (List.range (min n (last - (i + 1) + 1).toNat)).map fun k : Nat =>
            ofSecond (b.firstSecond (i + 1 + k)) := by
        refine List.map_congr_left fun k _ => ?_
        rw [Function.comp_apply, Nat.cast_succ, add_assoc, add_comm (k : Int) 1]
      rw [hrest]
      cases hnext : (ofSecond (b.firstSecond (i + 1))).checked with
      | some next =>
        obtain rfl := eq_of_checked hnext
        exact ih fun j hj => hcalendar j (by omega)
      | none =>
        -- only the step out of the last bucket may leave the calendar, and then none is left
        have hend : ¬i < last := fun hlt => by
          rw [checked_eq_some (hcalendar (i + 1) (by omega) (by omega))] at hnext
          contradiction
        have hnone : min n (last - (i + 1) + 1).toNat = 0 := by omega
        rw [hnone, List.range_zero, List.map_nil]

/-- The points of an axis are the first seconds of the buckets from that of `start` to that of
`stop`. -/
theorem points_eq (b : Bucket) {start stop : DateTime} (hstart : start.inCalendar = true)
    (hstop : stop.inCalendar = true) : points b start stop =
      (List.range (b.index stop - b.index start + 1).toNat).map fun k : Nat =>
        ofSecond (b.firstSecond (b.index start + k)) := by
  have hcount : min (b.countBetween start stop).toNat (b.index stop - b.index start + 1).toNat =
      (b.index stop - b.index start + 1).toNat := by
    by_cases h : b.index start ≤ b.index stop
    · rw [b.countBetween_of_index_le h, min_self]
    · have hnone : (b.index stop - b.index start + 1).toNat = 0 := by omega
      rw [hnone, min_eq_right (Nat.zero_le _)]
  rw [points, b.startOf_eq start, b.startOf_eq stop,
    pointsFrom_eq b _ fun j => Bucket.inCalendar_firstSecond_of_between hstart hstop, hcount]

theorem mem_points_iff {b : Bucket} {start stop : DateTime} (hstart : start.inCalendar = true)
    (hstop : stop.inCalendar = true) {t : DateTime} : t ∈ points b start stop ↔
      ∃ i, b.index start ≤ i ∧ i ≤ b.index stop ∧ t = ofSecond (b.firstSecond i) := by
  rw [points_eq b hstart hstop, List.mem_map]
  constructor
  · rintro ⟨k, hk, rfl⟩
    rw [List.mem_range] at hk
    exact ⟨_, by omega, by omega, rfl⟩
  · rintro ⟨i, h₁, h₂, rfl⟩
    refine ⟨(i - b.index start).toNat, List.mem_range.mpr (by omega), ?_⟩
    rw [Int.toNat_of_nonneg (by omega), add_sub_cancel]

/-- The number of points, the first of them and the last. -/
theorem points_ends {b : Bucket} {start stop : DateTime} (hstart : start.inCalendar = true)
    (hstop : stop.inCalendar = true) (hle : b.index start ≤ b.index stop) :
    ((points b start stop).length : Int) = b.index stop - b.index start + 1 ∧
      (points b start stop).head? = some (b.startOf start) ∧
      (points b start stop).getLast? = some (b.startOf stop) := by
  obtain ⟨n, hn⟩ : ∃ n : Nat, b.index stop = b.index start + n :=
    ⟨(b.index stop - b.index start).toNat, by omega⟩
  have hcount : (b.index stop - b.index start + 1).toNat = n + 1 := by omega
  rw [points_eq b hstart hstop, hcount, b.startOf_eq start, b.startOf_eq stop, hn]
  refine ⟨?_, ?_, ?_⟩
  · rw [List.length_map, List.length_range]
    push_cast
    ring
  · rw [List.range_succ_eq_map, List.map_cons, List.head?_cons, Nat.cast_zero, add_zero]
  · rw [List.range_succ, List.map_append, List.map_singleton, List.getLast?_concat]

/-! ### Labels in UTC -/

/-- A reading has an instant in UTC, whatever the clock does, if an hour later is still in the
calendar. -/
theorem isSome_localToUtc? (c : Clock) {wall : DateTime} (h : (wall.addSeconds? 3600).isSome) :
    (c.localToUtc? wall).isSome := by
  obtain ⟨later, hlater⟩ := Option.isSome_iff_exists.mp h
  rw [Clock.localToUtc?, hlater]
  split <;> rfl

theorem isSome_utcLabel? (b : Bucket) (zone : Zone) {t : DateTime}
    (h : (t.addSeconds? 3600).isSome) : (utcLabel? b zone t).isSome := by
  rw [utcLabel?]
  split
  · rfl
  · rw [Option.isSome_map]
    exact isSome_localToUtc? zone.clock h

/-- A list is read iff each of its elements is. -/
theorem mapM_eq_some_iff {α β : Type} {f : α → Option β} {l : List α} {l' : List β} :
    l.mapM f = some l' ↔ l.map f = l'.map some := by
  induction l generalizing l' with
  | nil => cases l' <;> simp
  | cons a l ih =>
    rw [List.mapM_cons, List.map_cons]
    cases l' with
    | nil => simp [Option.bind_eq_some_iff]
    | cons b l' =>
      simp only [Option.bind_eq_bind, Option.bind_eq_some_iff, Option.pure_def, ih,
        Option.some.injEq, List.map_cons, List.cons.injEq]
      constructor
      · rintro ⟨b', hb', l'', hl'', rfl, rfl⟩
        exact ⟨hb', hl''⟩
      · rintro ⟨hb, hl⟩
        exact ⟨b, hb, l', hl, rfl, rfl⟩

theorem exists_mapM_eq_some {α β : Type} {f : α → Option β} {l : List α}
    (h : ∀ a ∈ l, (f a).isSome) : ∃ l', l.mapM f = some l' := by
  induction l with
  | nil => exact ⟨[], rfl⟩
  | cons a l ih =>
    obtain ⟨c, hc⟩ := Option.isSome_iff_exists.mp (h a List.mem_cons_self)
    obtain ⟨l', hl'⟩ := ih fun x hx => h x (List.mem_cons_of_mem a hx)
    refine ⟨c :: l', ?_⟩
    rw [List.mapM_cons, hc, hl']
    rfl

/-- There is an axis if all of its points have a label in UTC. -/
theorem exists_generate?_of_isSome {b : Bucket} {start stop : DateTime} {zone : Zone}
    (h : ∀ t ∈ points b start stop, (utcLabel? b zone t).isSome) :
    ∃ axis, generate? b start stop zone = some axis ∧
      axis.labels = (points b start stop).map b.label := by
  obtain ⟨utcLabels, hutc⟩ := exists_mapM_eq_some h
  refine ⟨⟨b, (points b start stop).map b.label, utcLabels⟩, ?_, rfl⟩
  rw [generate?, hutc]
  rfl

/-- There is an axis if all of its points lie an hour before the end of the calendar. -/
theorem exists_generate?_eq {b : Bucket} {start stop : DateTime} {zone : Zone}
    (h : ∀ t ∈ points b start stop, (t.addSeconds? 3600).isSome) :
    ∃ axis, generate? b start stop zone = some axis ∧
      axis.labels = (points b start stop).map b.label :=
  exists_generate?_of_isSome fun t ht => isSome_utcLabel? b zone (h t ht)

end Axis

end SiteAnalytics
