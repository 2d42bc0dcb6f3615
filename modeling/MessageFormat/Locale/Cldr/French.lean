import MessageFormat.Locale.Cldr.Entry

/-!
French.
-/

set_option autoImplicit false

namespace MessageFormat.Locale.Cldr.French

open MessageFormat.PluralRelation (isIn isNotIn restIn restNotIn)

def numbers : NumberEntry where
  marks := ⟨",", "\u202f", ⟨"+", "-", "E"⟩⟩
  percent := "#,##0\u00a0%"
  currency := "#,##0.00\u00a0¤"
  accounting := "#,##0.00\u00a0¤;(#,##0.00\u00a0¤)"
  currencySymbols := [("USD", "$US"), ("EUR", "€"), ("GBP", "£GB"), ("INR", "₹")]

def units : List UnitEntry :=
  [⟨"duration-hour",
    [(.long, [(.one, .around "" "\u00a0heure"), (.other, .around "" "\u00a0heures")]),
     (.short, [(.one, .around "" "\u202fh"), (.other, .around "" "\u202fh")]),
     (.narrow, [(.one, .around "" "h"), (.other, .around "" "h")])],
    [(.long, "heures"), (.short, "h")]⟩,
   ⟨"duration-minute",
    [(.long, [(.one, .around "" " minute"), (.other, .around "" " minutes")]),
     (.short, [(.one, .around "" "\u00a0min"), (.other, .around "" "\u00a0min")]),
     (.narrow, [(.one, .around "" "min"), (.other, .around "" "min")])],
    [(.long, "minutes"), (.short, "min")]⟩,
   ⟨"duration-second",
    [(.long, [(.one, .around "" "\u00a0seconde"), (.other, .around "" "\u00a0secondes")]),
     (.short, [(.one, .around "" "\u202fs"), (.other, .around "" "\u202fs")]),
     (.narrow, [(.one, .around "" "s"), (.other, .around "" "s")])],
    [(.long, "secondes"), (.short, "s")]⟩,
   ⟨"length-kilometer",
    [(.long, [(.one, .around "" "\u00a0kilomètre"), (.other, .around "" "\u00a0kilomètres")]),
     (.short, [(.one, .around "" "\u202fkm"), (.other, .around "" "\u202fkm")]),
     (.narrow, [(.one, .around "" "km"), (.other, .around "" "km")])],
    [(.long, "kilomètres"), (.short, "km")]⟩,
   ⟨"length-meter",
    [(.long, [(.one, .around "" "\u00a0mètre"), (.other, .around "" "\u00a0mètres")]),
     (.short, [(.one, .around "" "\u202fm"), (.other, .around "" "\u202fm")]),
     (.narrow, [(.one, .around "" "m"), (.other, .around "" "m")])],
    [(.long, "mètres"), (.short, "m")]⟩,
   ⟨"temperature-celsius",
    [(.long,
      [(.one, .around "" "\u00a0degré Celsius"), (.other, .around "" "\u00a0degrés Celsius")]),
     (.short, [(.one, .around "" "\u202f°C"), (.other, .around "" "\u202f°C")]),
     (.narrow, [(.one, .around "" "°C"), (.other, .around "" "°C")])],
    [(.long, "degrés Celsius"), (.short, "°C")]⟩]

def lists : List ListEntry :=
  [⟨.conjunction, .long, ⟨some ", ", some ", ", some " et ", some " et "⟩⟩,
   ⟨.disjunction, .long, ⟨some ", ", some ", ", some " ou ", some " ou "⟩⟩,
   ⟨.conjunction, .narrow, { last := some ", ", pair := some ", " }⟩,
   ⟨.unit, .narrow, ⟨some " ", some " ", some " ", some " "⟩⟩]

def relative : List RelativeEntry :=
  [⟨"year",
    .long,
    some [(.one, .around "dans " " an"), (.other, .around "dans " " ans")],
    some [(.one, .around "il y a " " an"), (.other, .around "il y a " " ans")]⟩,
   ⟨"year",
    .short,
    some [(.one, .around "dans " " a"), (.other, .around "dans " " a")],
    some [(.one, .around "il y a " " a"), (.other, .around "il y a " " a")]⟩,
   ⟨"year",
    .narrow,
    some [(.one, .around "+" " a"), (.other, .around "+" " a")],
    some [(.one, .around "-" " a"), (.other, .around "-" " a")]⟩,
   ⟨"quarter",
    .long,
    some [(.one, .around "dans " " trimestre"), (.other, .around "dans " " trimestres")],
    some [(.one, .around "il y a " " trimestre"), (.other, .around "il y a " " trimestres")]⟩,
   ⟨"quarter",
    .short,
    some [(.one, .around "dans " " trim."), (.other, .around "dans " " trim.")],
    some [(.one, .around "il y a " " trim."), (.other, .around "il y a " " trim.")]⟩,
   ⟨"quarter",
    .narrow,
    some [(.one, .around "+" " trim."), (.other, .around "+" " trim.")],
    some [(.one, .around "-" " trim."), (.other, .around "-" " trim.")]⟩,
   ⟨"month",
    .long,
    some [(.one, .around "dans " " mois"), (.other, .around "dans " " mois")],
    some [(.one, .around "il y a " " mois"), (.other, .around "il y a " " mois")]⟩,
   ⟨"month",
    .short,
    some [(.one, .around "dans " " m."), (.other, .around "dans " " m.")],
    some [(.one, .around "il y a " " m."), (.other, .around "il y a " " m.")]⟩,
   ⟨"month",
    .narrow,
    some [(.one, .around "+" " m."), (.other, .around "+" " m.")],
    some [(.one, .around "-" " m."), (.other, .around "-" " m.")]⟩,
   ⟨"week",
    .long,
    some [(.one, .around "dans " " semaine"), (.other, .around "dans " " semaines")],
    some [(.one, .around "il y a " " semaine"), (.other, .around "il y a " " semaines")]⟩,
   ⟨"week",
    .short,
    some [(.one, .around "dans " " sem."), (.other, .around "dans " " sem.")],
    some [(.one, .around "il y a " " sem."), (.other, .around "il y a " " sem.")]⟩,
   ⟨"week",
    .narrow,
    some [(.one, .around "+" " sem."), (.other, .around "+" " sem.")],
    some [(.one, .around "-" " sem."), (.other, .around "-" " sem.")]⟩,
   ⟨"day",
    .long,
    some [(.one, .around "dans " " jour"), (.other, .around "dans " " jours")],
    some [(.one, .around "il y a " " jour"), (.other, .around "il y a " " jours")]⟩,
   ⟨"day",
    .short,
    some [(.one, .around "dans " "\u00a0j"), (.other, .around "dans " "\u00a0j")],
    some [(.one, .around "il y a " "\u00a0j"), (.other, .around "il y a " "\u00a0j")]⟩,
   ⟨"day",
    .narrow,
    some [(.one, .around "+" " j"), (.other, .around "+" " j")],
    some [(.one, .around "-" " j"), (.other, .around "-" " j")]⟩,
   ⟨"hour",
    .long,
    some [(.one, .around "dans " " heure"), (.other, .around "dans " " heures")],
    some [(.one, .around "il y a " " heure"), (.other, .around "il y a " " heures")]⟩,
   ⟨"hour",
    .short,
    some [(.one, .around "dans " "\u00a0h"), (.other, .around "dans " "\u00a0h")],
    some [(.one, .around "il y a " "\u00a0h"), (.other, .around "il y a " "\u00a0h")]⟩,
   ⟨"hour",
    .narrow,
    some [(.one, .around "+" " h"), (.other, .around "+" " h")],
    some [(.one, .around "-" " h"), (.other, .around "-" " h")]⟩,
   ⟨"minute",
    .long,
    some [(.one, .around "dans " " minute"), (.other, .around "dans " " minutes")],
    some [(.one, .around "il y a " " minute"), (.other, .around "il y a " " minutes")]⟩,
   ⟨"minute",
    .short,
    some [(.one, .around "dans " "\u00a0min"), (.other, .around "dans " "\u00a0min")],
    some [(.one, .around "il y a " "\u00a0min"), (.other, .around "il y a " "\u00a0min")]⟩,
   ⟨"minute",
    .narrow,
    some [(.one, .around "+" " min"), (.other, .around "+" " min")],
    some [(.one, .around "-" " min"), (.other, .around "-" " min")]⟩,
   ⟨"second",
    .long,
    some [(.one, .around "dans " " seconde"), (.other, .around "dans " " secondes")],
    some [(.one, .around "il y a " " seconde"), (.other, .around "il y a " " secondes")]⟩,
   ⟨"second",
    .short,
    some [(.one, .around "dans " "\u00a0s"), (.other, .around "dans " "\u00a0s")],
    some [(.one, .around "il y a " "\u00a0s"), (.other, .around "il y a " "\u00a0s")]⟩,
   ⟨"second",
    .narrow,
    some [(.one, .around "+" " s"), (.other, .around "+" " s")],
    some [(.one, .around "-" " s"), (.other, .around "-" " s")]⟩]

def months : Widths (List String) :=
  ⟨["janvier", "février", "mars", "avril", "mai", "juin", "juillet", "août", "septembre", "octobre",
    "novembre", "décembre"],
   ["janv.", "févr.", "mars", "avr.", "mai", "juin", "juil.", "août", "sept.", "oct.", "nov.",
    "déc."],
   ["J", "F", "M", "A", "M", "J", "J", "A", "S", "O", "N", "D"]⟩

def days : Widths (List String) :=
  ⟨["lundi", "mardi", "mercredi", "jeudi", "vendredi", "samedi", "dimanche"],
   ["lun.", "mar.", "mer.", "jeu.", "ven.", "sam.", "dim."],
   ["L", "M", "M", "J", "V", "S", "D"]⟩

def calendarNames : CalendarNames where
  months := months
  monthsAlone := months
  days := days
  daysShort := ["lu", "ma", "me", "je", "ve", "sa", "di"]
  daysAlone := days
  quarters :=
    ⟨["1er trimestre", "2e trimestre", "3e trimestre", "4e trimestre"],
     ["T1", "T2", "T3", "T4"],
     ["1", "2", "3", "4"]⟩
  era := ⟨"après Jésus-Christ", "ap. J.-C.", "ap. J.-C."⟩
  halfDays := ⟨none, some ⟨"AM", "PM"⟩, none⟩
  zones := { universal := "temps universel coordonné", offsetCode := "UTC" }

def skeletons : List (String × String) :=
  [("Bh", "h B"), ("Bhm", "h:mm B"), ("Bhms", "h:mm:ss B"), ("E", "E"), ("EBhm", "E h:mm B"),
   ("EBhms", "E h:mm:ss B"), ("EHm", "E HH:mm"), ("EHms", "E HH:mm:ss"), ("Ed", "E d"),
   ("Ehm", "E h:mm\u202fa"), ("Ehms", "E h:mm:ss\u202fa"), ("Gy", "y G"), ("GyMMM", "MMM y G"),
   ("GyMMMEd", "E d MMM y G"), ("GyMMMd", "d MMM y G"), ("GyMd", "dd/MM/y GGGGG"), ("H", "HH 'h'"),
   ("Hm", "HH:mm"), ("Hms", "HH:mm:ss"), ("Hmsv", "HH:mm:ss v"), ("Hmv", "HH:mm v"), ("M", "L"),
   ("MEd", "E dd/MM"), ("MMM", "LLL"), ("MMMEd", "E d MMM"), ("MMMMW", "'semaine' W (MMMM)"),
   ("MMMMd", "d MMMM"), ("MMMd", "d MMM"), ("Md", "dd/MM"), ("d", "d"), ("h", "h\u202fa"),
   ("hm", "h:mm\u202fa"), ("hms", "h:mm:ss\u202fa"), ("hmsv", "h:mm:ss\u202fa v"),
   ("hmv", "h:mm\u202fa v"), ("ms", "mm:ss"), ("y", "y"), ("yM", "MM/y"), ("yMEd", "E dd/MM/y"),
   ("yMMM", "MMM y"), ("yMMMEd", "E d MMM y"), ("yMMMM", "MMMM y"), ("yMMMd", "d MMM y"),
   ("yMd", "dd/MM/y"), ("yQQQ", "QQQ y"), ("yQQQQ", "QQQQ y"), ("yw", "'semaine' w 'de' Y")]

def dates : DateEntry where
  dates := ⟨"dd/MM/y", "d MMM y", "d MMMM y", "EEEE d MMMM y"⟩
  times := ⟨"HH:mm", "HH:mm:ss", "HH:mm:ss z", "HH:mm:ss zzzz"⟩
  joints := ⟨" ", ", ", ", ", ", "⟩
  names := calendarNames
  skeletons := skeletons

def entry : Entry where
  cardinal :=
    [(.one, [[isIn .i [(0, 0), (1, 1)]]]),
     (.many,
      [[isIn .e [(0, 0)], isNotIn .i [(0, 0)], restIn .i 1000000 [(0, 0)], isIn .v [(0, 0)]],
       [isNotIn .e [(0, 5)]]])]
  ordinal := [(.one, [[isIn .n [(1, 1)]]])]
  ordinalSuffixes := [(.one, "er"), (.other, "e")]
  numbers := some numbers
  units := units
  lists := lists
  relative := relative
  dates := some dates
  intervalJoint := "\u2009–\u2009"

end MessageFormat.Locale.Cldr.French
