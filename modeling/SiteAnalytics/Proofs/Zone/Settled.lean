import SiteAnalytics.Proofs.Zone.Clock

/-!
# Clocks that are changed no more

The changes of a zone's clock end long before the calendar does, and it never shows more than a day
more or less than UTC (`settles_parse`).  At the end of the calendar such a clock therefore has
one offset, and shows every reading that it reaches (`isSome_firstInstant?`).
-/

namespace SiteAnalytics

open DateTime

namespace Clock

/-- In the last hour of the calendar a settled clock shows what it reaches in the calendar. -/
theorem isSome_firstInstant? {c : Clock} (hordered : c.Ordered) (hsettles : c.Settles) {s : Int}
    (hs : calendarStop - 3600 ≤ s) {u : DateTime} (hu : u.inCalendar = true)
    (hreached : s ≤ c.reading u.second) : (c.firstInstant? (ofSecond s)).isSome := by
  have hstart : calendarStart < lastChange := by decide
  have hstop : lastChange + 2 * 86400 + 3600 < calendarStop := by decide
  have hday := hsettles.le_day u.second
  have hcal := inCalendar_iff.mp hu
  rw [reading] at hreached
  have hsame (i : Int) (h₁ : s - 86400 ≤ i) (_ : i ≤ s + 86400) :
      c.offsetAt i = c.offsetAt u.second :=
    hsettles.settled i u.second (by omega) (by omega)
  rw [firstInstant?_of_unchanged hordered hsettles.le_day hsame]
  · rfl
  · rw [inCalendar_iff, ofSecond_second]
    omega

end Clock

namespace Zone

theorem settles_constant {offset : Int} (h : -86400 ≤ offset ∧ offset ≤ 86400) :
    (Clock.constant offset).Settles :=
  Clock.settles_of_bounded ⟨h, by simp [Clock.constant]⟩

theorem settles_of_named? {zones : ZoneSource} {name : String} {z : Zone}
    (h : named? zones name = some z) : z.clock.Settles := by
  rw [named?] at h
  split_ifs at h
  · obtain rfl := Option.some.inj h
    exact settles_constant (by decide)
  · obtain ⟨clock, hclock, rfl⟩ := Option.map_eq_some_iff.mp h
    exact zones.settles hclock

/-- Whatever zone a request names, and wherever its clock comes from, it settles. -/
theorem settles_parse (raw : Option String) (zones : ZoneSource) :
    (parse raw zones).clock.Settles := by
  have hfallback : fallback.clock.Settles := settles_constant (by decide)
  rw [parse]
  split
  · exact hfallback
  · rename_i name _
    cases h : named? zones name with
    | none => exact hfallback
    | some z => exact settles_of_named? h

end Zone

end SiteAnalytics
