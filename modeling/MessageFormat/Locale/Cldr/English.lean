import MessageFormat.Locale.Cldr.Entry

/-!
English.
-/

set_option autoImplicit false

namespace MessageFormat.Locale.Cldr.English

open MessageFormat.PluralRelation (isIn isNotIn restIn restNotIn)

def compactShort : List CompactRow :=
  [⟨3, [(.other, "0K")]⟩, ⟨4, [(.other, "00K")]⟩, ⟨5, [(.other, "000K")]⟩, ⟨6, [(.other, "0M")]⟩,
   ⟨7, [(.other, "00M")]⟩, ⟨8, [(.other, "000M")]⟩, ⟨9, [(.other, "0B")]⟩, ⟨10, [(.other, "00B")]⟩,
   ⟨11, [(.other, "000B")]⟩, ⟨12, [(.other, "0T")]⟩, ⟨13, [(.other, "00T")]⟩,
   ⟨14, [(.other, "000T")]⟩]

def compactLong : List CompactRow :=
  [⟨3, [(.other, "0 thousand")]⟩, ⟨4, [(.other, "00 thousand")]⟩, ⟨5, [(.other, "000 thousand")]⟩,
   ⟨6, [(.other, "0 million")]⟩, ⟨7, [(.other, "00 million")]⟩, ⟨8, [(.other, "000 million")]⟩,
   ⟨9, [(.other, "0 billion")]⟩, ⟨10, [(.other, "00 billion")]⟩, ⟨11, [(.other, "000 billion")]⟩,
   ⟨12, [(.other, "0 trillion")]⟩, ⟨13, [(.other, "00 trillion")]⟩,
   ⟨14, [(.other, "000 trillion")]⟩]

def compactCurrency : List CompactRow :=
  [⟨3, [(.other, "¤0K")]⟩, ⟨4, [(.other, "¤00K")]⟩, ⟨5, [(.other, "¤000K")]⟩,
   ⟨6, [(.other, "¤0M")]⟩, ⟨7, [(.other, "¤00M")]⟩, ⟨8, [(.other, "¤000M")]⟩,
   ⟨9, [(.other, "¤0B")]⟩, ⟨10, [(.other, "¤00B")]⟩, ⟨11, [(.other, "¤000B")]⟩,
   ⟨12, [(.other, "¤0T")]⟩, ⟨13, [(.other, "¤00T")]⟩, ⟨14, [(.other, "¤000T")]⟩]

def numbers : NumberEntry where
  marks := ⟨".", ",", ⟨"+", "-", "E"⟩⟩
  currency := "¤#,##0.00"
  accounting := "¤#,##0.00;(¤#,##0.00)"
  currencySymbols := [("USD", "$"), ("EUR", "€"), ("JPY", "¥"), ("GBP", "£"), ("INR", "₹")]
  currencyNames :=
    [("USD", [(.one, "US dollar"), (.other, "US dollars")]),
     ("EUR", [(.one, "euro"), (.other, "euros")]),
     ("JPY", [(.other, "Japanese yen")])]
  compactShort := some compactShort
  compactLong := some compactLong
  compactCurrency := some compactCurrency

def units : List UnitEntry :=
  [⟨"duration-hour",
    [(.long, [(.one, .around "" " hour"), (.other, .around "" " hours")]),
     (.short, [(.one, .around "" " hr"), (.other, .around "" " hr")]),
     (.narrow, [(.one, .around "" "h"), (.other, .around "" "h")])],
    [(.long, "hours"), (.short, "hours"), (.narrow, "hour")]⟩,
   ⟨"duration-minute",
    [(.long, [(.one, .around "" " minute"), (.other, .around "" " minutes")]),
     (.short, [(.one, .around "" " min"), (.other, .around "" " min")]),
     (.narrow, [(.one, .around "" "m"), (.other, .around "" "m")])],
    [(.long, "minutes"), (.short, "mins"), (.narrow, "min")]⟩,
   ⟨"duration-second",
    [(.long, [(.one, .around "" " second"), (.other, .around "" " seconds")]),
     (.short, [(.one, .around "" " sec"), (.other, .around "" " sec")]),
     (.narrow, [(.one, .around "" "s"), (.other, .around "" "s")])],
    [(.long, "seconds"), (.short, "secs"), (.narrow, "sec")]⟩,
   ⟨"length-kilometer",
    [(.long, [(.one, .around "" " kilometer"), (.other, .around "" " kilometers")]),
     (.short, [(.one, .around "" " km"), (.other, .around "" " km")]),
     (.narrow, [(.one, .around "" "km"), (.other, .around "" "km")])],
    [(.long, "kilometers"), (.short, "km"), (.narrow, "km")]⟩,
   ⟨"length-meter",
    [(.long, [(.one, .around "" " meter"), (.other, .around "" " meters")]),
     (.short, [(.one, .around "" " m"), (.other, .around "" " m")]),
     (.narrow, [(.one, .around "" "m"), (.other, .around "" "m")])],
    [(.long, "meters"), (.short, "m"), (.narrow, "m")]⟩,
   ⟨"temperature-celsius",
    [(.long, [(.one, .around "" " degree Celsius"), (.other, .around "" " degrees Celsius")]),
     (.short, [(.one, .around "" "°C"), (.other, .around "" "°C")]),
     (.narrow, [(.one, .around "" "°C"), (.other, .around "" "°C")])],
    [(.long, "degrees Celsius"), (.short, "deg. C"), (.narrow, "°C")]⟩]

def lists : List ListEntry :=
  [⟨.conjunction, .long, ⟨some ", ", some ", ", some ", and ", some " and "⟩⟩,
   ⟨.disjunction, .long, ⟨some ", ", some ", ", some ", or ", some " or "⟩⟩,
   ⟨.disjunction, .narrow, ⟨some ", ", some ", ", some ", or ", some " or "⟩⟩,
   ⟨.disjunction, .short, ⟨some ", ", some ", ", some ", or ", some " or "⟩⟩,
   ⟨.conjunction, .narrow, ⟨some ", ", some ", ", some ", ", some ", "⟩⟩,
   ⟨.conjunction, .short, ⟨some ", ", some ", ", some ", & ", some " & "⟩⟩,
   ⟨.unit, .long, ⟨some ", ", some ", ", some ", ", some ", "⟩⟩,
   ⟨.unit, .narrow, ⟨some " ", some " ", some " ", some " "⟩⟩,
   ⟨.unit, .short, ⟨some ", ", some ", ", some ", ", some ", "⟩⟩]

def relative : List RelativeEntry :=
  [⟨"year",
    .long,
    some [(.one, .around "in " " year"), (.other, .around "in " " years")],
    some [(.one, .around "" " year ago"), (.other, .around "" " years ago")]⟩,
   ⟨"year",
    .short,
    some [(.one, .around "in " " yr."), (.other, .around "in " " yr.")],
    some [(.one, .around "" " yr. ago"), (.other, .around "" " yr. ago")]⟩,
   ⟨"year",
    .narrow,
    some [(.one, .around "in " "y"), (.other, .around "in " "y")],
    some [(.one, .around "" "y ago"), (.other, .around "" "y ago")]⟩,
   ⟨"quarter",
    .long,
    some [(.one, .around "in " " quarter"), (.other, .around "in " " quarters")],
    some [(.one, .around "" " quarter ago"), (.other, .around "" " quarters ago")]⟩,
   ⟨"quarter",
    .short,
    some [(.one, .around "in " " qtr."), (.other, .around "in " " qtrs.")],
    some [(.one, .around "" " qtr. ago"), (.other, .around "" " qtrs. ago")]⟩,
   ⟨"quarter",
    .narrow,
    some [(.one, .around "in " "q"), (.other, .around "in " "q")],
    some [(.one, .around "" "q ago"), (.other, .around "" "q ago")]⟩,
   ⟨"month",
    .long,
    some [(.one, .around "in " " month"), (.other, .around "in " " months")],
    some [(.one, .around "" " month ago"), (.other, .around "" " months ago")]⟩,
   ⟨"month",
    .short,
    some [(.one, .around "in " " mo."), (.other, .around "in " " mo.")],
    some [(.one, .around "" " mo. ago"), (.other, .around "" " mo. ago")]⟩,
   ⟨"month",
    .narrow,
    some [(.one, .around "in " "mo"), (.other, .around "in " "mo")],
    some [(.one, .around "" "mo ago"), (.other, .around "" "mo ago")]⟩,
   ⟨"week",
    .long,
    some [(.one, .around "in " " week"), (.other, .around "in " " weeks")],
    some [(.one, .around "" " week ago"), (.other, .around "" " weeks ago")]⟩,
   ⟨"week",
    .short,
    some [(.one, .around "in " " wk."), (.other, .around "in " " wk.")],
    some [(.one, .around "" " wk. ago"), (.other, .around "" " wk. ago")]⟩,
   ⟨"week",
    .narrow,
    some [(.one, .around "in " "w"), (.other, .around "in " "w")],
    some [(.one, .around "" "w ago"), (.other, .around "" "w ago")]⟩,
   ⟨"day",
    .long,
    some [(.one, .around "in " " day"), (.other, .around "in " " days")],
    some [(.one, .around "" " day ago"), (.other, .around "" " days ago")]⟩,
   ⟨"day",
    .short,
    some [(.one, .around "in " " day"), (.other, .around "in " " days")],
    some [(.one, .around "" " day ago"), (.other, .around "" " days ago")]⟩,
   ⟨"day",
    .narrow,
    some [(.one, .around "in " "d"), (.other, .around "in " "d")],
    some [(.one, .around "" "d ago"), (.other, .around "" "d ago")]⟩,
   ⟨"hour",
    .long,
    some [(.one, .around "in " " hour"), (.other, .around "in " " hours")],
    some [(.one, .around "" " hour ago"), (.other, .around "" " hours ago")]⟩,
   ⟨"hour",
    .short,
    some [(.one, .around "in " " hr."), (.other, .around "in " " hr.")],
    some [(.one, .around "" " hr. ago"), (.other, .around "" " hr. ago")]⟩,
   ⟨"hour",
    .narrow,
    some [(.one, .around "in " "h"), (.other, .around "in " "h")],
    some [(.one, .around "" "h ago"), (.other, .around "" "h ago")]⟩,
   ⟨"minute",
    .long,
    some [(.one, .around "in " " minute"), (.other, .around "in " " minutes")],
    some [(.one, .around "" " minute ago"), (.other, .around "" " minutes ago")]⟩,
   ⟨"minute",
    .short,
    some [(.one, .around "in " " min."), (.other, .around "in " " min.")],
    some [(.one, .around "" " min. ago"), (.other, .around "" " min. ago")]⟩,
   ⟨"minute",
    .narrow,
    some [(.one, .around "in " "m"), (.other, .around "in " "m")],
    some [(.one, .around "" "m ago"), (.other, .around "" "m ago")]⟩,
   ⟨"second",
    .long,
    some [(.one, .around "in " " second"), (.other, .around "in " " seconds")],
    some [(.one, .around "" " second ago"), (.other, .around "" " seconds ago")]⟩,
   ⟨"second",
    .short,
    some [(.one, .around "in " " sec."), (.other, .around "in " " sec.")],
    some [(.one, .around "" " sec. ago"), (.other, .around "" " sec. ago")]⟩,
   ⟨"second",
    .narrow,
    some [(.one, .around "in " "s"), (.other, .around "in " "s")],
    some [(.one, .around "" "s ago"), (.other, .around "" "s ago")]⟩]

def months : Widths (List String) :=
  ⟨["January", "February", "March", "April", "May", "June", "July", "August", "September",
    "October", "November", "December"],
   ["Jan", "Feb", "Mar", "Apr", "May", "Jun", "Jul", "Aug", "Sep", "Oct", "Nov", "Dec"],
   ["J", "F", "M", "A", "M", "J", "J", "A", "S", "O", "N", "D"]⟩

def days : Widths (List String) :=
  ⟨["Monday", "Tuesday", "Wednesday", "Thursday", "Friday", "Saturday", "Sunday"],
   ["Mon", "Tue", "Wed", "Thu", "Fri", "Sat", "Sun"],
   ["M", "T", "W", "T", "F", "S", "S"]⟩

def calendarNames : CalendarNames where
  months := months
  monthsAlone := months
  days := days
  daysShort := ["Mo", "Tu", "We", "Th", "Fr", "Sa", "Su"]
  daysAlone := days
  quarters :=
    ⟨["1st quarter", "2nd quarter", "3rd quarter", "4th quarter"],
     ["Q1", "Q2", "Q3", "Q4"],
     ["1", "2", "3", "4"]⟩
  era := ⟨"Anno Domini", "AD", "A"⟩
  halfDays := ⟨some ⟨"AM", "PM"⟩, some ⟨"AM", "PM"⟩, some ⟨"a", "p"⟩⟩
  zones :=
    { universal := "Coordinated Universal Time",
      placeBefore := "Unknown Region (",
      placeAfter := ") Time" }

def skeletons : List (String × String) :=
  [("Bh", "h B"), ("Bhm", "h:mm B"), ("Bhms", "h:mm:ss B"), ("E", "ccc"), ("EBhm", "E h:mm B"),
   ("EBhms", "E h:mm:ss B"), ("EHm", "E HH:mm"), ("EHms", "E HH:mm:ss"), ("Ed", "d E"),
   ("Ehm", "E h:mm a"), ("Ehms", "E h:mm:ss a"), ("Gy", "y G"), ("GyMMM", "MMM y G"),
   ("GyMMMEd", "E, MMM d, y G"), ("GyMMMd", "MMM d, y G"), ("GyMd", "M/d/y G"), ("H", "HH"),
   ("Hm", "HH:mm"), ("Hms", "HH:mm:ss"), ("Hmsv", "HH:mm:ss v"), ("Hmv", "HH:mm v"), ("M", "L"),
   ("MEd", "E, M/d"), ("MMM", "LLL"), ("MMMEd", "E, MMM d"), ("MMMMW", "'week' W 'of' MMMM"),
   ("MMMMd", "MMMM d"), ("MMMd", "MMM d"), ("Md", "M/d"), ("d", "d"), ("h", "h a"),
   ("hm", "h:mm a"), ("hms", "h:mm:ss a"), ("hmsv", "h:mm:ss a v"), ("hmv", "h:mm a v"),
   ("ms", "mm:ss"), ("y", "y"), ("yM", "M/y"), ("yMEd", "E, M/d/y"), ("yMMM", "MMM y"),
   ("yMMMEd", "E, MMM d, y"), ("yMMMM", "MMMM y"), ("yMMMd", "MMM d, y"), ("yMd", "M/d/y"),
   ("yQQQ", "QQQ y"), ("yQQQQ", "QQQQ y"), ("yw", "'week' w 'of' Y")]

def intervals : List (String × List IntervalPart) :=
  [("Hm", [⟨'H', "HH:mm\u2009–\u2009", "HH:mm"⟩, ⟨'m', "HH:mm\u2009–\u2009", "HH:mm"⟩]),
   ("MMMd", [⟨'M', "MMM d\u2009–\u2009", "MMM d"⟩, ⟨'d', "MMM d\u2009–\u2009", "d"⟩]),
   ("Md", [⟨'M', "M/d\u2009–\u2009", "M/d"⟩, ⟨'d', "M/d\u2009–\u2009", "M/d"⟩]),
   ("d", [⟨'d', "d\u2009–\u2009", "d"⟩]),
   ("hm",
    [⟨'a', "h:mm\u202fa\u2009–\u2009", "h:mm\u202fa"⟩,
     ⟨'h', "h:mm\u2009–\u2009", "h:mm\u202fa"⟩,
     ⟨'m', "h:mm\u2009–\u2009", "h:mm\u202fa"⟩]),
   ("y", [⟨'y', "y\u2009–\u2009", "y"⟩]),
   ("yMMM", [⟨'y', "MMM y\u2009–\u2009", "MMM y"⟩, ⟨'M', "MMM\u2009–\u2009", "MMM y"⟩]),
   ("yMMMM", [⟨'y', "MMMM y\u2009–\u2009", "MMMM y"⟩, ⟨'M', "MMMM\u2009–\u2009", "MMMM y"⟩]),
   ("yMMMd",
    [⟨'y', "MMM d, y\u2009–\u2009", "MMM d, y"⟩,
     ⟨'M', "MMM d\u2009–\u2009", "MMM d, y"⟩,
     ⟨'d', "MMM d\u2009–\u2009", "d, y"⟩]),
   ("yMd",
    [⟨'y', "M/d/y\u2009–\u2009", "M/d/y"⟩,
     ⟨'M', "M/d/y\u2009–\u2009", "M/d/y"⟩,
     ⟨'d', "M/d/y\u2009–\u2009", "M/d/y"⟩])]

def dates : DateEntry where
  dates := ⟨"M/d/yy", "MMM d, y", "MMMM d, y", "EEEE, MMMM d, y"⟩
  times := ⟨"h:mm\u202fa", "h:mm:ss\u202fa", "h:mm:ss\u202fa z", "h:mm:ss\u202fa zzzz"⟩
  joints := ⟨", ", ", ", ", ", ", "⟩
  names := calendarNames
  skeletons := skeletons
  intervals := intervals

def entry : Entry where
  cardinal := [(.one, [[isIn .i [(1, 1)], isIn .v [(0, 0)]]])]
  ordinal :=
    [(.one, [[restIn .n 10 [(1, 1)], restNotIn .n 100 [(11, 11)]]]),
     (.two, [[restIn .n 10 [(2, 2)], restNotIn .n 100 [(12, 12)]]]),
     (.few, [[restIn .n 10 [(3, 3)], restNotIn .n 100 [(13, 13)]]])]
  ordinalSuffixes := [(.one, "st"), (.two, "nd"), (.few, "rd"), (.other, "th")]
  numbers := some numbers
  units := units
  lists := lists
  relative := relative
  dates := some dates
  intervalJoint := "\u2009–\u2009"

end MessageFormat.Locale.Cldr.English
