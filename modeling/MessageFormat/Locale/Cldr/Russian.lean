import MessageFormat.Locale.Cldr.Entry

/-!
Russian: numbers, durations, lists and relative times.
-/

set_option autoImplicit false

namespace MessageFormat.Locale.Cldr.Russian

open MessageFormat.PluralRelation (isIn isNotIn restIn restNotIn)

def numbers : NumberEntry where
  marks := ⟨",", "\u00a0", ⟨"+", "-", "E"⟩⟩
  percent := "#,##0\u00a0%"
  currency := "#,##0.00\u00a0¤"
  accounting := "#,##0.00\u00a0¤"
  currencySymbols :=
    [("USD", "$"), ("EUR", "€"), ("JPY", "¥"), ("GBP", "£"), ("INR", "₹"), ("RUB", "₽")]
  currencyNames :=
    [("USD", [(.one, "доллар США"), (.many, "долларов США"), (.other, "доллара США")]),
     ("EUR", [(.other, "евро")]),
     ("JPY",
      [(.one, "японская иена"), (.few, "японские иены"), (.many, "японских иен"),
       (.other, "японской иены")])]

def units : List UnitEntry :=
  [⟨"duration-hour",
    [(.long,
      [(.one, .around "" " час"), (.few, .around "" " часа"), (.many, .around "" " часов"),
       (.other, .around "" " часа")]),
     (.short,
      [(.one, .around "" " ч"), (.few, .around "" " ч"), (.many, .around "" " ч"),
       (.other, .around "" " ч")])],
    [(.long, "часы"), (.short, "ч")]⟩,
   ⟨"duration-minute",
    [(.long,
      [(.one, .around "" " минута"), (.few, .around "" " минуты"), (.many, .around "" " минут"),
       (.other, .around "" " минуты")]),
     (.short,
      [(.one, .around "" " мин"), (.few, .around "" " мин"), (.many, .around "" " мин"),
       (.other, .around "" " мин")])],
    [(.long, "минуты"), (.short, "мин")]⟩,
   ⟨"duration-second",
    [(.long,
      [(.one, .around "" " секунда"), (.few, .around "" " секунды"), (.many, .around "" " секунд"),
       (.other, .around "" " секунды")]),
     (.short,
      [(.one, .around "" " с"), (.few, .around "" " с"), (.many, .around "" " с"),
       (.other, .around "" " с")]),
     (.narrow, [])],
    [(.long, "секунды"), (.short, "с"), (.narrow, "c")]⟩]

def lists : List ListEntry :=
  [⟨.conjunction, .long, ⟨some ", ", some ", ", some " и ", some " и "⟩⟩,
   ⟨.disjunction, .long, ⟨some ", ", some ", ", some " или ", some " или "⟩⟩,
   ⟨.conjunction, .narrow, { last := some ", ", pair := some ", " }⟩,
   ⟨.unit, .short, ⟨some " ", some " ", some " ", some " "⟩⟩]

def relative : List RelativeEntry :=
  [⟨"year",
    .long,
    some [(.one, .around "через " " год"), (.few, .around "через " " года"),
           (.many, .around "через " " лет"), (.other, .around "через " " года")],
    some [(.one, .around "" " год назад"), (.few, .around "" " года назад"),
           (.many, .around "" " лет назад"), (.other, .around "" " года назад")]⟩,
   ⟨"year",
    .short,
    some [(.one, .around "через " " г."), (.few, .around "через " " г."),
           (.many, .around "через " " л."), (.other, .around "через " " г.")],
    some [(.one, .around "" " г. назад"), (.few, .around "" " г. назад"),
           (.many, .around "" " л. назад"), (.other, .around "" " г. назад")]⟩,
   ⟨"year",
    .narrow,
    some [(.one, .around "+" " г."), (.few, .around "+" " г."), (.many, .around "+" " л."),
           (.other, .around "+" " г.")],
    some [(.one, .around "-" " г."), (.few, .around "-" " г."), (.many, .around "-" " л."),
           (.other, .around "-" " г.")]⟩,
   ⟨"quarter",
    .long,
    some [(.one, .around "через " " квартал"),
           (.few, .around "через " " квартала"),
           (.many, .around "через " " кварталов"),
           (.other, .around "через " " квартала")],
    some [(.one, .around "" " квартал назад"),
           (.few, .around "" " квартала назад"),
           (.many, .around "" " кварталов назад"),
           (.other, .around "" " квартала назад")]⟩,
   ⟨"quarter",
    .short,
    some [(.one, .around "через " " кв."), (.few, .around "через " " кв."),
           (.many, .around "через " " кв."), (.other, .around "через " " кв.")],
    some [(.one, .around "" " кв. назад"), (.few, .around "" " кв. назад"),
           (.many, .around "" " кв. назад"), (.other, .around "" " кв. назад")]⟩,
   ⟨"quarter",
    .narrow,
    some [(.one, .around "+" " кв."), (.few, .around "+" " кв."), (.many, .around "+" " кв."),
           (.other, .around "+" " кв.")],
    some [(.one, .around "-" " кв."), (.few, .around "-" " кв."), (.many, .around "-" " кв."),
           (.other, .around "-" " кв.")]⟩,
   ⟨"month",
    .long,
    some [(.one, .around "через " " месяц"),
           (.few, .around "через " " месяца"),
           (.many, .around "через " " месяцев"),
           (.other, .around "через " " месяца")],
    some [(.one, .around "" " месяц назад"),
           (.few, .around "" " месяца назад"),
           (.many, .around "" " месяцев назад"),
           (.other, .around "" " месяца назад")]⟩,
   ⟨"month",
    .short,
    some [(.one, .around "через " " мес."), (.few, .around "через " " мес."),
           (.many, .around "через " " мес."), (.other, .around "через " " мес.")],
    some [(.one, .around "" " мес. назад"), (.few, .around "" " мес. назад"),
           (.many, .around "" " мес. назад"), (.other, .around "" " мес. назад")]⟩,
   ⟨"month",
    .narrow,
    some [(.one, .around "+" " мес."), (.few, .around "+" " мес."), (.many, .around "+" " мес."),
           (.other, .around "+" " мес.")],
    some [(.one, .around "-" " мес."), (.few, .around "-" " мес."), (.many, .around "-" " мес."),
           (.other, .around "-" " мес.")]⟩,
   ⟨"week",
    .long,
    some [(.one, .around "через " " неделю"),
           (.few, .around "через " " недели"),
           (.many, .around "через " " недель"),
           (.other, .around "через " " недели")],
    some [(.one, .around "" " неделю назад"),
           (.few, .around "" " недели назад"),
           (.many, .around "" " недель назад"),
           (.other, .around "" " недели назад")]⟩,
   ⟨"week",
    .short,
    some [(.one, .around "через " " нед."), (.few, .around "через " " нед."),
           (.many, .around "через " " нед."), (.other, .around "через " " нед.")],
    some [(.one, .around "" " нед. назад"), (.few, .around "" " нед. назад"),
           (.many, .around "" " нед. назад"), (.other, .around "" " нед. назад")]⟩,
   ⟨"week",
    .narrow,
    some [(.one, .around "+" " нед."), (.few, .around "+" " нед."), (.many, .around "+" " нед."),
           (.other, .around "+" " нед.")],
    some [(.one, .around "-" " нед."), (.few, .around "-" " нед."), (.many, .around "-" " нед."),
           (.other, .around "-" " нед.")]⟩,
   ⟨"day",
    .long,
    some [(.one, .around "через " " день"), (.few, .around "через " " дня"),
           (.many, .around "через " " дней"), (.other, .around "через " " дня")],
    some [(.one, .around "" " день назад"), (.few, .around "" " дня назад"),
           (.many, .around "" " дней назад"), (.other, .around "" " дня назад")]⟩,
   ⟨"day",
    .short,
    some [(.one, .around "через " " дн."), (.few, .around "через " " дн."),
           (.many, .around "через " " дн."), (.other, .around "через " " дн.")],
    some [(.one, .around "" " дн. назад"), (.few, .around "" " дн. назад"),
           (.many, .around "" " дн. назад"), (.other, .around "" " дн. назад")]⟩,
   ⟨"day",
    .narrow,
    some [(.one, .around "+" " дн."), (.few, .around "+" " дн."), (.many, .around "+" " дн."),
           (.other, .around "+" " дн.")],
    some [(.one, .around "-" " дн."), (.few, .around "-" " дн."), (.many, .around "-" " дн."),
           (.other, .around "-" " дн.")]⟩,
   ⟨"hour",
    .long,
    some [(.one, .around "через " " час"), (.few, .around "через " " часа"),
           (.many, .around "через " " часов"), (.other, .around "через " " часа")],
    some [(.one, .around "" " час назад"), (.few, .around "" " часа назад"),
           (.many, .around "" " часов назад"), (.other, .around "" " часа назад")]⟩,
   ⟨"hour",
    .short,
    some [(.one, .around "через " " ч"), (.few, .around "через " " ч"),
           (.many, .around "через " " ч"), (.other, .around "через " " ч")],
    some [(.one, .around "" " ч назад"), (.few, .around "" " ч назад"),
           (.many, .around "" " ч назад"), (.other, .around "" " ч назад")]⟩,
   ⟨"hour",
    .narrow,
    some [(.one, .around "+" " ч"), (.few, .around "+" " ч"), (.many, .around "+" " ч"),
           (.other, .around "+" " ч")],
    some [(.one, .around "-" " ч"), (.few, .around "-" " ч"), (.many, .around "-" " ч"),
           (.other, .around "-" " ч")]⟩,
   ⟨"minute",
    .long,
    some [(.one, .around "через " " минуту"),
           (.few, .around "через " " минуты"),
           (.many, .around "через " " минут"),
           (.other, .around "через " " минуты")],
    some [(.one, .around "" " минуту назад"),
           (.few, .around "" " минуты назад"),
           (.many, .around "" " минут назад"),
           (.other, .around "" " минуты назад")]⟩,
   ⟨"minute",
    .short,
    some [(.one, .around "через " " мин."), (.few, .around "через " " мин."),
           (.many, .around "через " " мин."), (.other, .around "через " " мин.")],
    some [(.one, .around "" " мин. назад"), (.few, .around "" " мин. назад"),
           (.many, .around "" " мин. назад"), (.other, .around "" " мин. назад")]⟩,
   ⟨"minute",
    .narrow,
    some [(.one, .around "+" " мин"), (.few, .around "+" " мин"), (.many, .around "+" " мин"),
           (.other, .around "+" " мин")],
    some [(.one, .around "-" " мин"), (.few, .around "-" " мин"), (.many, .around "-" " мин"),
           (.other, .around "-" " мин")]⟩,
   ⟨"second",
    .long,
    some [(.one, .around "через " " секунду"),
           (.few, .around "через " " секунды"),
           (.many, .around "через " " секунд"),
           (.other, .around "через " " секунды")],
    some [(.one, .around "" " секунду назад"),
           (.few, .around "" " секунды назад"),
           (.many, .around "" " секунд назад"),
           (.other, .around "" " секунды назад")]⟩,
   ⟨"second",
    .short,
    some [(.one, .around "через " "\u00a0сек."),
           (.few, .around "через " "\u00a0сек."),
           (.many, .around "через " "\u00a0сек."),
           (.other, .around "через " "\u00a0сек.")],
    some [(.one, .around "" " сек. назад"), (.few, .around "" " сек. назад"),
           (.many, .around "" " сек. назад"), (.other, .around "" " сек. назад")]⟩,
   ⟨"second",
    .narrow,
    some [(.one, .around "+" " с"), (.few, .around "+" " с"), (.many, .around "+" " с"),
           (.other, .around "+" " с")],
    some [(.one, .around "-" " с"), (.few, .around "-" " с"), (.many, .around "-" " с"),
           (.other, .around "-" " с")]⟩]

def entry : Entry where
  cardinal :=
    [(.one, [[isIn .v [(0, 0)], restIn .i 10 [(1, 1)], restNotIn .i 100 [(11, 11)]]]),
     (.few, [[isIn .v [(0, 0)], restIn .i 10 [(2, 4)], restNotIn .i 100 [(12, 14)]]]),
     (.many,
      [[isIn .v [(0, 0)], restIn .i 10 [(0, 0)]],
       [isIn .v [(0, 0)], restIn .i 10 [(5, 9)]],
       [isIn .v [(0, 0)], restIn .i 100 [(11, 14)]]])]
  numbers := some numbers
  units := units
  lists := lists
  relative := relative

end MessageFormat.Locale.Cldr.Russian
