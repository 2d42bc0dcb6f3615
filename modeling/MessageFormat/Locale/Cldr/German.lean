import MessageFormat.Locale.Cldr.Entry

/-!
German.
-/

set_option autoImplicit false

namespace MessageFormat.Locale.Cldr.German

open MessageFormat.PluralRelation (isIn isNotIn restIn restNotIn)

def compactShort : List CompactRow :=
  [⟨3, [(.other, "0")]⟩,
   ⟨4, [(.other, "0")]⟩,
   ⟨5, [(.other, "0")]⟩,
   ⟨6, [(.other, "0\u00a0Mio'.'")]⟩,
   ⟨7, [(.other, "00\u00a0Mio'.'")]⟩,
   ⟨8, [(.other, "000\u00a0Mio'.'")]⟩,
   ⟨9, [(.other, "0\u00a0Mrd'.'")]⟩,
   ⟨10, [(.other, "00\u00a0Mrd'.'")]⟩,
   ⟨11, [(.other, "000\u00a0Mrd'.'")]⟩,
   ⟨12, [(.other, "0\u00a0Bio'.'")]⟩,
   ⟨13, [(.other, "00\u00a0Bio'.'")]⟩,
   ⟨14, [(.other, "000\u00a0Bio'.'")]⟩]

def compactLong : List CompactRow :=
  [⟨3, [(.other, "0 Tausend")]⟩,
   ⟨4, [(.other, "00 Tausend")]⟩,
   ⟨5, [(.other, "000 Tausend")]⟩,
   ⟨6, [(.one, "0 Million"), (.other, "0 Millionen")]⟩,
   ⟨7, [(.other, "00 Millionen")]⟩,
   ⟨8, [(.other, "000 Millionen")]⟩,
   ⟨9, [(.one, "0 Milliarde"), (.other, "0 Milliarden")]⟩,
   ⟨10, [(.other, "00 Milliarden")]⟩,
   ⟨11, [(.other, "000 Milliarden")]⟩,
   ⟨12, [(.one, "0 Billion"), (.other, "0 Billionen")]⟩,
   ⟨13, [(.other, "00 Billionen")]⟩,
   ⟨14, [(.other, "000 Billionen")]⟩]

def compactCurrency : List CompactRow :=
  [⟨3, [(.other, "0")]⟩,
   ⟨4, [(.other, "0")]⟩,
   ⟨5, [(.other, "0")]⟩,
   ⟨6, [(.other, "0\u00a0Mio'.'\u00a0¤")]⟩,
   ⟨7, [(.other, "00\u00a0Mio'.'\u00a0¤")]⟩,
   ⟨8, [(.other, "000\u00a0Mio'.'\u00a0¤")]⟩,
   ⟨9, [(.other, "0\u00a0Mrd'.'\u00a0¤")]⟩,
   ⟨10, [(.other, "00\u00a0Mrd'.'\u00a0¤")]⟩,
   ⟨11, [(.other, "000\u00a0Mrd'.'\u00a0¤")]⟩,
   ⟨12, [(.other, "0\u00a0Bio'.'\u00a0¤")]⟩,
   ⟨13, [(.other, "00\u00a0Bio'.'\u00a0¤")]⟩,
   ⟨14, [(.other, "000\u00a0Bio'.'\u00a0¤")]⟩]

def numbers : NumberEntry where
  marks := ⟨",", ".", ⟨"+", "-", "E"⟩⟩
  percent := "#,##0\u00a0%"
  currency := "#,##0.00\u00a0¤"
  accounting := "#,##0.00\u00a0¤"
  currencySymbols := [("USD", "$"), ("EUR", "€"), ("JPY", "¥"), ("GBP", "£"), ("INR", "₹")]
  currencyNames :=
    [("USD", [(.other, "US-Dollar")]),
     ("EUR", [(.other, "Euro")]),
     ("JPY", [(.one, "Japanischer Yen"), (.other, "Japanische Yen")])]
  compactShort := some compactShort
  compactLong := some compactLong
  compactCurrency := some compactCurrency

def units : List UnitEntry :=
  [⟨"duration-hour",
    [(.long, [(.one, .around "" " Stunde"), (.other, .around "" " Stunden")]),
     (.short, [(.one, .around "" " Std."), (.other, .around "" " Std.")])],
    [(.long, "Stunden"), (.short, "Std.")]⟩,
   ⟨"duration-minute",
    [(.long, [(.one, .around "" " Minute"), (.other, .around "" " Minuten")]),
     (.short, [(.one, .around "" " Min."), (.other, .around "" " Min.")])],
    [(.long, "Minuten"), (.short, "min")]⟩,
   ⟨"duration-second",
    [(.long, [(.one, .around "" " Sekunde"), (.other, .around "" " Sekunden")]),
     (.short, [(.one, .around "" " Sek."), (.other, .around "" " Sek.")])],
    [(.long, "Sekunden"), (.short, "Sek.")]⟩,
   ⟨"length-kilometer",
    [(.long, [(.one, .around "" " Kilometer"), (.other, .around "" " Kilometer")]),
     (.short, [(.other, .around "" " km")])],
    [(.long, "Kilometer"), (.short, "km")]⟩,
   ⟨"length-meter",
    [(.long, [(.one, .around "" " Meter"), (.other, .around "" " Meter")]),
     (.short, [(.other, .around "" " m")])],
    [(.short, "Meter")]⟩,
   ⟨"temperature-celsius",
    [(.long, [(.one, .around "" " Grad Celsius"), (.other, .around "" " Grad Celsius")]),
     (.short, [(.one, .around "" " °C"), (.other, .around "" " °C")])],
    [(.long, "Grad Celsius"), (.short, "°C")]⟩]

def lists : List ListEntry :=
  [⟨.conjunction, .long, ⟨some ", ", some ", ", some " und ", some " und "⟩⟩,
   ⟨.disjunction, .long, ⟨some ", ", some ", ", some " oder ", some " oder "⟩⟩,
   ⟨.unit, .short, { pair := some ", " }⟩]

def relative : List RelativeEntry :=
  [⟨"year",
    .long,
    some [(.one, .around "in " " Jahr"), (.other, .around "in " " Jahren")],
    some [(.one, .around "vor " " Jahr"), (.other, .around "vor " " Jahren")]⟩,
   ⟨"quarter",
    .long,
    some [(.one, .around "in " " Quartal"), (.other, .around "in " " Quartalen")],
    some [(.one, .around "vor " " Quartal"), (.other, .around "vor " " Quartalen")]⟩,
   ⟨"quarter",
    .short,
    some [(.one, .around "in " " Quart."), (.other, .around "in " " Quart.")],
    some [(.one, .around "vor " " Quart."), (.other, .around "vor " " Quart.")]⟩,
   ⟨"quarter",
    .narrow,
    some [(.one, .around "in " " Q"), (.other, .around "in " " Q")],
    some [(.one, .around "vor " " Q"), (.other, .around "vor " " Q")]⟩,
   ⟨"month",
    .long,
    some [(.one, .around "in " " Monat"), (.other, .around "in " " Monaten")],
    some [(.one, .around "vor " " Monat"), (.other, .around "vor " " Monaten")]⟩,
   ⟨"month",
    .short,
    none,
    some [(.one, .around "vor " " Monat"), (.other, .around "vor " "\u00a0Monaten")]⟩,
   ⟨"month",
    .narrow,
    none,
    some [(.one, .around "vor " "\u00a0Monat"), (.other, .around "vor " " Monaten")]⟩,
   ⟨"week",
    .long,
    some [(.one, .around "in " " Woche"), (.other, .around "in " " Wochen")],
    some [(.one, .around "vor " " Woche"), (.other, .around "vor " " Wochen")]⟩,
   ⟨"week",
    .narrow,
    some [(.one, .around "in " " Wo."), (.other, .around "in " " Wo.")],
    some [(.one, .around "vor " " Wo."), (.other, .around "vor " " Wo.")]⟩,
   ⟨"day",
    .long,
    some [(.one, .around "in " " Tag"), (.other, .around "in " " Tagen")],
    some [(.one, .around "vor " " Tag"), (.other, .around "vor " " Tagen")]⟩,
   ⟨"hour",
    .long,
    some [(.one, .around "in " " Stunde"), (.other, .around "in " " Stunden")],
    some [(.one, .around "vor " " Stunde"), (.other, .around "vor " " Stunden")]⟩,
   ⟨"hour",
    .short,
    some [(.one, .around "in " " Std."), (.other, .around "in " " Std.")],
    some [(.one, .around "vor " " Std."), (.other, .around "vor " " Std.")]⟩,
   ⟨"minute",
    .long,
    some [(.one, .around "in " " Minute"), (.other, .around "in " " Minuten")],
    some [(.one, .around "vor " " Minute"), (.other, .around "vor " " Minuten")]⟩,
   ⟨"minute",
    .short,
    some [(.one, .around "in " " Min."), (.other, .around "in " " Min.")],
    some [(.one, .around "vor " " Min."), (.other, .around "vor " " Min.")]⟩,
   ⟨"minute",
    .narrow,
    some [(.one, .around "in " " m"), (.other, .around "in " " m")],
    some [(.one, .around "vor " " m"), (.other, .around "vor " " m")]⟩,
   ⟨"second",
    .long,
    some [(.one, .around "in " " Sekunde"), (.other, .around "in " " Sekunden")],
    some [(.one, .around "vor " " Sekunde"), (.other, .around "vor " " Sekunden")]⟩,
   ⟨"second",
    .short,
    some [(.one, .around "in " " Sek."), (.other, .around "in " " Sek.")],
    some [(.one, .around "vor " " Sek."), (.other, .around "vor " " Sek.")]⟩,
   ⟨"second",
    .narrow,
    some [(.one, .around "in " " s"), (.other, .around "in " " s")],
    some [(.one, .around "vor " " s"), (.other, .around "vor " " s")]⟩]

def months : Widths (List String) :=
  ⟨["Januar", "Februar", "März", "April", "Mai", "Juni", "Juli", "August", "September", "Oktober",
    "November", "Dezember"],
   ["Jan.", "Feb.", "März", "Apr.", "Mai", "Juni", "Juli", "Aug.", "Sept.", "Okt.", "Nov.", "Dez."],
   ["J", "F", "M", "A", "M", "J", "J", "A", "S", "O", "N", "D"]⟩

def monthsAlone : Widths (List String) :=
  ⟨["Januar", "Februar", "März", "April", "Mai", "Juni", "Juli", "August", "September", "Oktober",
    "November", "Dezember"],
   ["Jan", "Feb", "Mär", "Apr", "Mai", "Jun", "Jul", "Aug", "Sep", "Okt", "Nov", "Dez"],
   ["J", "F", "M", "A", "M", "J", "J", "A", "S", "O", "N", "D"]⟩

def days : Widths (List String) :=
  ⟨["Montag", "Dienstag", "Mittwoch", "Donnerstag", "Freitag", "Samstag", "Sonntag"],
   ["Mo.", "Di.", "Mi.", "Do.", "Fr.", "Sa.", "So."],
   ["M", "D", "M", "D", "F", "S", "S"]⟩

def daysAlone : Widths (List String) :=
  { days with abbreviated := ["Mo", "Di", "Mi", "Do", "Fr", "Sa", "So"] }

def calendarNames : CalendarNames where
  months := months
  monthsAlone := monthsAlone
  days := days
  daysShort := ["Mo.", "Di.", "Mi.", "Do.", "Fr.", "Sa.", "So."]
  daysAlone := daysAlone
  quarters :=
    ⟨["1. Quartal", "2. Quartal", "3. Quartal", "4. Quartal"],
     ["Q1", "Q2", "Q3", "Q4"],
     ["1", "2", "3", "4"]⟩
  era := ⟨"unserer Zeitrechnung", "n. Chr.", "n. Chr."⟩
  halfDays := ⟨none, some ⟨"AM", "PM"⟩, none⟩
  zones :=
    { universal := "Koordinierte Weltzeit",
      placeBefore := "Unbekannte Region (",
      placeAfter := ") (Ortszeit)" }

def skeletons : List (String × String) :=
  [("Bh", "h B"),
   ("Bhm", "h:mm B"),
   ("Bhms", "h:mm:ss B"),
   ("E", "ccc"),
   ("EBhm", "E h:mm B"),
   ("EBhms", "E h:mm:ss B"),
   ("EHm", "E, HH:mm"),
   ("EHms", "E, HH:mm:ss"),
   ("Ed", "E, d."),
   ("Ehm", "E h:mm\u202fa"),
   ("Ehms", "E, h:mm:ss\u202fa"),
   ("Gy", "y G"),
   ("GyMMM", "MMM y G"),
   ("GyMMMEd", "E, d. MMM y G"),
   ("GyMMMd", "d. MMM y G"),
   ("GyMd", "dd.MM.y G"),
   ("H", "HH 'Uhr'"),
   ("Hm", "HH:mm"),
   ("Hms", "HH:mm:ss"),
   ("Hmsv", "HH:mm:ss v"),
   ("Hmv", "HH:mm v"),
   ("M", "L"),
   ("MEd", "E, d.M."),
   ("MMM", "LLL"),
   ("MMMEd", "E, d. MMM"),
   ("MMMMEd", "E, d. MMMM"),
   ("MMMMW", "'Woche' W 'im' MMMM"),
   ("MMMMd", "d. MMMM"),
   ("MMMd", "d. MMM"),
   ("MMd", "d.MM."),
   ("MMdd", "dd.MM."),
   ("Md", "d.M."),
   ("d", "d"),
   ("h", "h 'Uhr' a"),
   ("hm", "h:mm\u202fa"),
   ("hms", "h:mm:ss\u202fa"),
   ("hmsv", "h:mm:ss\u202fa v"),
   ("hmv", "h:mm\u202fa v"),
   ("ms", "mm:ss"),
   ("y", "y"),
   ("yM", "M/y"),
   ("yMEd", "E, d.M.y"),
   ("yMM", "MM.y"),
   ("yMMM", "MMM y"),
   ("yMMMEd", "E, d. MMM y"),
   ("yMMMM", "MMMM y"),
   ("yMMMd", "d. MMM y"),
   ("yMMdd", "dd.MM.y"),
   ("yMd", "d.M.y"),
   ("yQQQ", "QQQ y"),
   ("yQQQQ", "QQQQ y"),
   ("yw", "'Woche' w 'des' 'Jahres' Y")]

def intervals : List (String × List IntervalPart) :=
  [("Hm", [⟨'H', "HH:mm–", "HH:mm 'Uhr'"⟩, ⟨'m', "HH:mm–", "HH:mm 'Uhr'"⟩]),
   ("MMMd", [⟨'M', "d. MMM\u2009–\u2009", "d. MMM"⟩, ⟨'d', "d.–", "d. MMM"⟩]),
   ("Md", [⟨'M', "dd.MM.\u2009–\u2009", "dd.MM."⟩, ⟨'d', "dd.–", "dd.MM."⟩]),
   ("d", [⟨'d', "d.–", "d."⟩]),
   ("hm",
    [⟨'a', "h:mm\u202fa\u2009–\u2009", "h:mm\u202fa"⟩,
     ⟨'h', "h:mm–", "h:mm\u202fa"⟩,
     ⟨'m', "h:mm–", "h:mm\u202fa"⟩]),
   ("y", [⟨'y', "y–", "y"⟩]),
   ("yMMM", [⟨'y', "MMM y\u2009–\u2009", "MMM y"⟩, ⟨'M', "MMM–", "MMM y"⟩]),
   ("yMMMM", [⟨'y', "MMMM y\u2009–\u2009", "MMMM y"⟩, ⟨'M', "MMMM–", "MMMM y"⟩]),
   ("yMMMd",
    [⟨'y', "d. MMM y\u2009–\u2009", "d. MMM y"⟩,
     ⟨'M', "d. MMM\u2009–\u2009", "d. MMM y"⟩,
     ⟨'d', "d.–", "d. MMM y"⟩]),
   ("yMd",
    [⟨'y', "dd.MM.y\u2009–\u2009", "dd.MM.y"⟩,
     ⟨'M', "dd.MM.\u2009–\u2009", "dd.MM.y"⟩,
     ⟨'d', "dd.–", "dd.MM.y"⟩])]

def dates : DateEntry where
  dates := ⟨"dd.MM.yy", "dd.MM.y", "d. MMMM y", "EEEE, d. MMMM y"⟩
  times := ⟨"HH:mm", "HH:mm:ss", "HH:mm:ss z", "HH:mm:ss zzzz"⟩
  joints := ⟨", ", ", ", ", ", ", "⟩
  names := calendarNames
  skeletons := skeletons
  intervals := intervals

def entry : Entry where
  cardinal := [(.one, [[isIn .i [(1, 1)], isIn .v [(0, 0)]]])]
  ordinalSuffixes := [(.other, ".")]
  numbers := some numbers
  units := units
  lists := lists
  relative := relative
  dates := some dates
  intervalJoint := "\u2009–\u2009"

end MessageFormat.Locale.Cldr.German
