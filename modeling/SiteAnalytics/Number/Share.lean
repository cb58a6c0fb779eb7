/-!
# Shares

Shares and rates are doubles rounded to a fixed number of places, a half going away from zero. The
order of the operations is part of the result: the scale is multiplied in before the division.
-/

namespace SiteAnalytics.Share

/-- `scale * part / whole`, rounded to a whole number. -/
def scaled (scale : Float) (part whole : Int) : Float :=
  (scale * Float.ofInt part / Float.ofInt whole).round

/-- A double rounded to two places. -/
def twoPlaces (x : Float) : Float := (x * 100).round / 100

/-- The percentage of `part` in `whole`, to two places; 0 of nothing. -/
def percent (part whole : Int) : Float :=
  if whole = 0 then 0 else twoPlaces (100 * Float.ofInt part / Float.ofInt whole)

/-- The percentage of `part` in `whole`, to one place. -/
def tenths (part whole : Int) : Float := scaled 1000 part whole / 10

/-- The percentage of `part` in `whole`, to two places, rounded once. -/
def hundredths (part whole : Int) : Float := scaled 10000 part whole / 100

end SiteAnalytics.Share
