import MessageFormat.Locale.Cldr.Entry

/-!
Japanese.
-/

set_option autoImplicit false

namespace MessageFormat.Locale.Cldr.Japanese

open MessageFormat.PluralRelation (isIn isNotIn restIn restNotIn)

def compactShort : List CompactRow :=
  [⟨3, [(.other, "0")]⟩, ⟨4, [(.other, "0万")]⟩, ⟨5, [(.other, "00万")]⟩, ⟨6, [(.other, "000万")]⟩,
   ⟨7, [(.other, "0000万")]⟩, ⟨8, [(.other, "0億")]⟩, ⟨9, [(.other, "00億")]⟩,
   ⟨10, [(.other, "000億")]⟩, ⟨11, [(.other, "0000億")]⟩, ⟨12, [(.other, "0兆")]⟩,
   ⟨13, [(.other, "00兆")]⟩, ⟨14, [(.other, "000兆")]⟩, ⟨15, [(.other, "0000兆")]⟩,
   ⟨16, [(.other, "0京")]⟩, ⟨17, [(.other, "00京")]⟩, ⟨18, [(.other, "000京")]⟩,
   ⟨19, [(.other, "0000京")]⟩]

def compactCurrency : List CompactRow :=
  [⟨3, [(.other, "0")]⟩, ⟨4, [(.other, "¤0万")]⟩, ⟨5, [(.other, "¤00万")]⟩, ⟨6, [(.other, "¤000万")]⟩,
   ⟨7, [(.other, "¤0000万")]⟩, ⟨8, [(.other, "¤0億")]⟩, ⟨9, [(.other, "¤00億")]⟩,
   ⟨10, [(.other, "¤000億")]⟩, ⟨11, [(.other, "¤0000億")]⟩, ⟨12, [(.other, "¤0兆")]⟩,
   ⟨13, [(.other, "¤00兆")]⟩, ⟨14, [(.other, "¤000兆")]⟩, ⟨15, [(.other, "¤0000兆")]⟩,
   ⟨16, [(.other, "¤0京")]⟩, ⟨17, [(.other, "¤00京")]⟩, ⟨18, [(.other, "¤000京")]⟩,
   ⟨19, [(.other, "¤0000京")]⟩]

def numbers : NumberEntry where
  marks := ⟨".", ",", ⟨"+", "-", "E"⟩⟩
  currency := "¤#,##0.00"
  accounting := "¤#,##0.00;(¤#,##0.00)"
  currencySymbols := [("USD", "$"), ("EUR", "€"), ("JPY", "￥"), ("GBP", "£"), ("INR", "₹")]
  compactShort := some compactShort
  compactCurrency := some compactCurrency

def units : List UnitEntry :=
  [⟨"duration-hour",
    [(.short, [(.other, .around "" " 時間")]), (.narrow, [(.other, .around "" "h")])],
    [(.short, "時間")]⟩,
   ⟨"duration-minute",
    [(.short, [(.other, .around "" " 分")]), (.narrow, [(.other, .around "" "m")])],
    [(.short, "分")]⟩,
   ⟨"duration-second",
    [(.short, [(.other, .around "" " 秒")]), (.narrow, [(.other, .around "" "s")])],
    [(.short, "秒")]⟩]

def lists : List ListEntry :=
  [⟨.conjunction, .long, ⟨some "、", some "、", some "、", some "、"⟩⟩,
   ⟨.disjunction, .long, ⟨some "、", some "、", some "、または", some "または"⟩⟩,
   ⟨.unit, .narrow, ⟨some "", some "", some "", some ""⟩⟩,
   ⟨.unit, .short, ⟨some " ", some " ", some " ", some " "⟩⟩]

def relative : List RelativeEntry :=
  [⟨"year", .long, some [(.other, .around "" " 年後")], some [(.other, .around "" " 年前")]⟩,
   ⟨"year", .narrow, some [(.other, .around "" "年後")], some [(.other, .around "" "年前")]⟩,
   ⟨"quarter", .long, some [(.other, .around "" " 四半期後")], some [(.other, .around "" " 四半期前")]⟩,
   ⟨"quarter", .narrow, some [(.other, .around "" "四半期後")], some [(.other, .around "" "四半期前")]⟩,
   ⟨"month", .long, some [(.other, .around "" " か月後")], some [(.other, .around "" " か月前")]⟩,
   ⟨"month", .narrow, some [(.other, .around "" "か月後")], some [(.other, .around "" "か月前")]⟩,
   ⟨"week", .long, some [(.other, .around "" " 週間後")], some [(.other, .around "" " 週間前")]⟩,
   ⟨"week", .narrow, some [(.other, .around "" "週間後")], some [(.other, .around "" "週間前")]⟩,
   ⟨"day", .long, some [(.other, .around "" " 日後")], some [(.other, .around "" " 日前")]⟩,
   ⟨"day", .narrow, some [(.other, .around "" "日後")], some [(.other, .around "" "日前")]⟩,
   ⟨"hour", .long, some [(.other, .around "" " 時間後")], some [(.other, .around "" " 時間前")]⟩,
   ⟨"hour", .narrow, some [(.other, .around "" "時間後")], some [(.other, .around "" "時間前")]⟩,
   ⟨"minute", .long, some [(.other, .around "" " 分後")], some [(.other, .around "" " 分前")]⟩,
   ⟨"minute", .narrow, some [(.other, .around "" "分後")], some [(.other, .around "" "分前")]⟩,
   ⟨"second", .long, some [(.other, .around "" " 秒後")], some [(.other, .around "" " 秒前")]⟩,
   ⟨"second", .narrow, some [(.other, .around "" "秒後")], some [(.other, .around "" "秒前")]⟩]

def months : Widths (List String) :=
  ⟨["1月", "2月", "3月", "4月", "5月", "6月", "7月", "8月", "9月", "10月", "11月", "12月"],
   ["1月", "2月", "3月", "4月", "5月", "6月", "7月", "8月", "9月", "10月", "11月", "12月"],
   ["1", "2", "3", "4", "5", "6", "7", "8", "9", "10", "11", "12"]⟩

def days : Widths (List String) :=
  ⟨["月曜日", "火曜日", "水曜日", "木曜日", "金曜日", "土曜日", "日曜日"],
   ["月", "火", "水", "木", "金", "土", "日"],
   ["月", "火", "水", "木", "金", "土", "日"]⟩

def calendarNames : CalendarNames where
  months := months
  monthsAlone := months
  days := days
  daysShort := ["月", "火", "水", "木", "金", "土", "日"]
  daysAlone := days
  quarters := ⟨["第1四半期", "第2四半期", "第3四半期", "第4四半期"], ["Q1", "Q2", "Q3", "Q4"], ["1", "2", "3", "4"]⟩
  era := ⟨"西暦", "西暦", "AD"⟩
  halfDays := ⟨none, some ⟨"午前", "午後"⟩, none⟩
  zones := { universal := "協定世界時" }

def skeletons : List (String × String) :=
  [("Bh", "BK時"), ("Bhm", "BK:mm"), ("Bhms", "BK:mm:ss"), ("E", "ccc"), ("EBhm", "BK:mm (E)"),
   ("EBhms", "BK:mm:ss (E)"), ("EEEEd", "d日EEEE"), ("EHm", "H:mm (E)"), ("EHms", "H:mm:ss (E)"),
   ("Ed", "d日(E)"), ("Ehm", "aK:mm (E)"), ("Ehms", "aK:mm:ss (E)"), ("Gy", "Gy年"),
   ("GyMMM", "Gy年M月"), ("GyMMMEEEEd", "Gy年M月d日EEEE"), ("GyMMMEd", "Gy年M月d日(E)"),
   ("GyMMMd", "Gy年M月d日"), ("GyMd", "Gy/M/d"), ("H", "H時"), ("Hm", "H:mm"), ("Hms", "H:mm:ss"),
   ("Hmsv", "H:mm:ss v"), ("Hmv", "H:mm v"), ("M", "M月"), ("MEEEEd", "M/dEEEE"), ("MEd", "M/d(E)"),
   ("MMM", "M月"), ("MMMEEEEd", "M月d日EEEE"), ("MMMEd", "M月d日(E)"), ("MMMMW", "M月第W週"),
   ("MMMMd", "M月d日"), ("MMMd", "M月d日"), ("Md", "M/d"), ("d", "d日"), ("h", "aK時"), ("hm", "aK:mm"),
   ("hms", "aK:mm:ss"), ("hmsv", "aK:mm:ss v"), ("hmv", "aK:mm v"), ("ms", "mm:ss"), ("y", "y年"),
   ("yM", "y/M"), ("yMEEEEd", "y/M/dEEEE"), ("yMEd", "y/M/d(E)"), ("yMM", "y/MM"), ("yMMM", "y年M月"),
   ("yMMMEEEEd", "y年M月d日EEEE"), ("yMMMEd", "y年M月d日(E)"), ("yMMMM", "y年M月"), ("yMMMd", "y年M月d日"),
   ("yMd", "y/M/d"), ("yQQQ", "y/QQQ"), ("yQQQQ", "y年QQQQ"), ("yw", "Y年第w週")]

def dates : DateEntry where
  dates := ⟨"y/MM/dd", "y/MM/dd", "y年M月d日", "y年M月d日EEEE"⟩
  times := ⟨"H:mm", "H:mm:ss", "H:mm:ss z", "H時mm分ss秒 zzzz"⟩
  joints := ⟨" ", " ", " ", " "⟩
  names := calendarNames
  skeletons := skeletons

def entry : Entry where
  numbers := some numbers
  units := units
  lists := lists
  relative := relative
  dates := some dates
  intervalJoint := "～"

end MessageFormat.Locale.Cldr.Japanese
