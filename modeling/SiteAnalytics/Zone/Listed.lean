import SiteAnalytics.Zone.Source
import SiteAnalytics.Zone.Table

/-!
# The zones that are listed

The source of clocks that the program is run with unless it is given another one. Nothing that is
said of requests is about these zones in particular.
-/

namespace SiteAnalytics

namespace Zone

/-- The listed zones that are not UTC. -/
def table : List (String × Clock) :=
  [("Africa/Abidjan", africaAbidjan),
    ("America/Caracas", americaCaracas),
    ("America/Los_Angeles", americaLosAngeles),
    ("America/New_York", americaNewYork),
    ("America/Sao_Paulo", americaSaoPaulo),
    ("America/St_Johns", americaStJohns),
    ("Antarctica/Troll", antarcticaTroll),
    ("Asia/Kathmandu", asiaKathmandu),
    ("Asia/Kolkata", asiaKolkata),
    ("Asia/Tehran", asiaTehran),
    ("Asia/Tokyo", asiaTokyo),
    ("Atlantic/Reykjavik", africaAbidjan),
    ("Australia/Lord_Howe", australiaLordHowe),
    ("EST", americaPanama),
    ("EST5EDT", americaNewYork),
    ("Etc/GMT+12", .constant (-43200)),
    ("Etc/GMT+5", .constant (-18000)),
    ("Etc/GMT-14", .constant 50400),
    ("Europe/Dublin", europeDublin),
    ("Europe/Kiev", europeKyiv),
    ("Europe/Kyiv", europeKyiv),
    ("Europe/London", europeLondon),
    ("Iceland", africaAbidjan),
    ("Pacific/Apia", pacificApia),
    ("Pacific/Chatham", pacificChatham),
    ("Pacific/Kiritimati", pacificKiritimati),
    ("US/Eastern", americaNewYork)]

theorem inOrder_of_mem_table : ∀ e ∈ table, Clock.inOrder e.2.changes = true := by
  decide +kernel

theorem bounded_of_mem_table : ∀ e ∈ table, e.2.Bounded := by
  decide +kernel

end Zone

/-- The source of the listed zones. -/
def ZoneSource.listed : ZoneSource :=
  .ofTable Zone.table Zone.inOrder_of_mem_table Zone.bounded_of_mem_table

end SiteAnalytics
