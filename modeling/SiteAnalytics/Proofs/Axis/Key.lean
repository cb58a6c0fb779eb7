import SiteAnalytics.Axis.Basic
import SiteAnalytics.Axis.Key
import SiteAnalytics.Proofs.Bucket.Index
import SiteAnalytics.Proofs.Text.Numeral
import SiteAnalytics.Query.Chart

/-!
# Bucket keys and labels

A row carries the calendar fields by which it was grouped, and an axis the labels of its points.
The two meet in the number of a bucket: date-times have the same key iff they lie in the same bucket
(`ofDateTime_eq_iff`), different keys of one size of bucket have different labels
(`ofDateTime_eq_of_label_eq`), and from year 0 to 9999 the label of a key is that of the axis
(`label_eq_label_ofDateTime`).
-/

namespace SiteAnalytics

open Calendar DateTime

namespace BucketKey

/-! ### Keys of group columns -/

/-- The key with the calendar fields of `t` that are named by some columns. The year is always
there. -/
def ofColumns (columns : List String) (t : DateTime) : BucketKey where
  year := t.date.year
  month := if "month" ∈ columns then some t.date.month else none
  day := if "day" ∈ columns then some t.date.day else none
  hour := if "hour" ∈ columns then some t.hour else none
  minute := if "minute" ∈ columns then some t.minute else none

theorem ofColumns_groupColumns (b : Bucket) (t : DateTime) :
    ofColumns b.groupColumns t = ofDateTime b t := by
  cases b <;> simp [ofColumns, ofDateTime, Bucket.groupColumns]

/-! ### Keys and numbers of buckets -/

theorem monthIndex_eq_iff {m n : Int} : monthIndex m = monthIndex n ↔
    (Date.ofDay m).year = (Date.ofDay n).year ∧ (Date.ofDay m).month = (Date.ofDay n).month := by
  have hm := ofDay_month_bounds m
  have hn := ofDay_month_bounds n
  rw [monthIndex, monthIndex]
  omega

theorem ofDay_inj {m n : Int} : Date.ofDay m = Date.ofDay n ↔ m = n := by
  constructor
  · intro h
    rw [← toDay_ofDay m, h, toDay_ofDay]
  · rintro rfl
    rfl

theorem day_eq_day_iff {t u : DateTime} : t.day = u.day ↔ t.date.year = u.date.year ∧
    t.date.month = u.date.month ∧ t.date.day = u.date.day := by
  rw [DateTime.date, DateTime.date, ← ofDay_inj]
  constructor
  · intro h
    rw [h]
    exact ⟨rfl, rfl, rfl⟩
  · rintro ⟨hyear, hmonth, hday⟩
    cases hm : Date.ofDay t.day
    cases hn : Date.ofDay u.day
    rw [hm, hn] at hyear hmonth hday
    dsimp only at hyear hmonth hday
    rw [hyear, hmonth, hday]

theorem hour_index_eq (t : DateTime) : Bucket.hour.index t = 24 * t.day + t.hour := by
  unfold Bucket.index DateTime.hour DateTime.secondOfDay DateTime.day secondsPerDay
  dsimp only
  omega

theorem minute_index_eq (t : DateTime) :
    Bucket.minute.index t = 60 * Bucket.hour.index t + t.minute := by
  unfold Bucket.index DateTime.minute DateTime.secondOfDay secondsPerDay
  dsimp only
  omega

/-- Date-times have the same key iff they lie in the same bucket. -/
theorem ofDateTime_eq_iff {b : Bucket} {t u : DateTime} :
    ofDateTime b t = ofDateTime b u ↔ b.index t = b.index u := by
  have ht := t.hour_lt
  have hu := u.hour_lt
  have hhour : Bucket.hour.index t = Bucket.hour.index u ↔ t.day = u.day ∧ t.hour = u.hour := by
    rw [hour_index_eq, hour_index_eq]
    omega
  cases b with
  | minute =>
    have ht' := t.minute_lt
    have hu' := u.minute_lt
    have hminute : Bucket.minute.index t = Bucket.minute.index u ↔
        Bucket.hour.index t = Bucket.hour.index u ∧ t.minute = u.minute := by
      rw [minute_index_eq, minute_index_eq]
      omega
    rw [hminute, hhour, day_eq_day_iff]
    simp [ofDateTime, and_assoc]
  | hour =>
    rw [hhour, day_eq_day_iff]
    simp [ofDateTime, and_assoc]
  | day =>
    simp only [Bucket.index]
    rw [day_eq_day_iff]
    simp [ofDateTime]
  | month =>
    simp only [Bucket.index]
    rw [monthIndex_eq_iff]
    simp [ofDateTime, DateTime.date]
  | year =>
    simp only [Bucket.index]
    simp [ofDateTime, DateTime.date, ofDay_year]

/-! ### Labels of keys -/

/-- The text of the fields of a key after the year. -/
def tailChars (b : Bucket) (t : DateTime) : List Char :=
  let two := Numeral.padded 2
  match b with
  | .year => []
  | .month => '-' :: two t.date.month
  | .day => '-' :: (two t.date.month ++ '-' :: two t.date.day)
  | .hour =>
    '-' :: (two t.date.month ++ '-' :: (two t.date.day ++ ' ' :: (two t.hour ++ ":00:00".toList)))
  | .minute =>
    '-' :: (two t.date.month ++ '-' :: (two t.date.day ++ ' ' :: (two t.hour ++
      ':' :: (two t.minute ++ ":00".toList))))

theorem labelChars_ofDateTime (b : Bucket) (t : DateTime) :
    (ofDateTime b t).labelChars = Numeral.paddedInt 4 t.date.year ++ tailChars b t := by
  cases b <;> simp [ofDateTime, labelChars, tailChars, List.append_assoc]

theorem year_tail_inj {b : Bucket} {m n : Nat} {t u : DateTime}
    (h : Numeral.padded 4 m ++ tailChars b t = Numeral.padded 4 n ++ tailChars b u) :
    m = n ∧ tailChars b t = tailChars b u := by
  cases b with
  | year =>
    simp only [tailChars, List.append_nil] at h ⊢
    exact ⟨Numeral.padded_inj.mp h, trivial⟩
  | _ =>
    simp only [tailChars] at h ⊢
    rw [Numeral.padded_append_inj (by decide) (by decide)] at h
    exact ⟨h.1, by rw [h.2.2]⟩

theorem ofDateTime_eq_of_tailChars_eq {b : Bucket} {t u : DateTime}
    (hyear : t.date.year = u.date.year) (h : tailChars b t = tailChars b u) :
    ofDateTime b t = ofDateTime b u := by
  -- what follows a two-digit field begins with a mark, and so the field can be told apart
  have hcolon : ":00".toList = ':' :: "00".toList := rfl
  have hcolons : ":00:00".toList = ':' :: "00:00".toList := rfl
  cases b <;>
    simp (disch := decide) only [tailChars, hcolon, hcolons, List.cons.injEq, true_and, and_true,
      Numeral.padded_append_inj, Numeral.padded_inj] at h <;>
    simp [ofDateTime, hyear, h]

/-- Keys of one size of bucket with the same label are the same. -/
theorem ofDateTime_eq_of_label_eq {b : Bucket} {t u : DateTime} (hyear : 0 ≤ t.date.year)
    (h : (ofDateTime b t).label = (ofDateTime b u).label) : ofDateTime b t = ofDateTime b u := by
  rw [label, label, String.ofList_inj, labelChars_ofDateTime, labelChars_ofDateTime,
    Numeral.paddedInt_of_nonneg 4 hyear] at h
  have hyear' := Numeral.nonneg_of_padded_append_eq h
  rw [Numeral.paddedInt_of_nonneg 4 hyear'] at h
  obtain ⟨hsame, htail⟩ := year_tail_inj h
  exact ofDateTime_eq_of_tailChars_eq (by omega) htail

/-- From year 0 to 9999 a key is written like the point of the axis. -/
theorem label_eq_label_ofDateTime (b : Bucket) {t : DateTime} (h₀ : 0 ≤ t.date.year)
    (h₁ : t.date.year ≤ 9999) : b.label t = (ofDateTime b t).label := by
  have hyear : yearChars t.date.year = Numeral.padded 4 t.date.year.natAbs := by
    rw [yearChars, if_pos (by simp [h₀, h₁])]
  rw [Bucket.label, format, label, String.ofList_inj, labelChars_ofDateTime,
    Numeral.paddedInt_of_nonneg 4 h₀]
  cases b <;>
    simp [formatChars, Bucket.labelPattern, Pattern.dateMinute, Pattern.dateOnly, fieldChars,
      hyear, tailChars]

end BucketKey

end SiteAnalytics
