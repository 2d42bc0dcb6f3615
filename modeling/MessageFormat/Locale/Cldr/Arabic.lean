import MessageFormat.Locale.Cldr.Entry

/-!
Arabic as in Egypt: numbers, lists and relative times.
-/

set_option autoImplicit false

namespace MessageFormat.Locale.Cldr.Arabic

open MessageFormat.PluralRelation (isIn isNotIn restIn restNotIn)

def numbers : NumberEntry where
  marks := ⟨".", ",", ⟨"\u200e+", "\u200e-", "E"⟩⟩
  currency := "\u200f#,##0.00\u00a0¤;\u200f-#,##0.00\u00a0¤"
  accounting := "\u061c#,##0.00¤;(\u061c#,##0.00¤)"
  currencySymbols :=
    [("USD", "US$"), ("EUR", "€"), ("JPY", "JP¥"), ("GBP", "UK£"), ("KWD", "د.ك.\u200f"),
     ("EGP", "ج.م.\u200f"), ("INR", "₹")]

def lists : List ListEntry :=
  [⟨.conjunction, .long, ⟨some " و", some " و", some " و", some " و"⟩⟩,
   ⟨.disjunction, .long, ⟨some " أو ", some " أو ", some " أو ", some " أو "⟩⟩,
   ⟨.unit, .narrow, { start := some " و", middle := some " و", last := some " و" }⟩,
   ⟨.unit, .short, { start := some "، و", middle := some "، و", last := some "، و" }⟩]

def relative : List RelativeEntry :=
  [⟨"year",
    .long,
    some [(.zero, .around "خلال " " سنة"), (.one, .fixed "خلال سنة واحدة"),
           (.two, .fixed "خلال سنتين"), (.few, .around "خلال " " سنوات"),
           (.many, .around "خلال " " سنة"), (.other, .around "خلال " " سنة")],
    some [(.zero, .around "قبل " " سنة"), (.one, .fixed "قبل سنة واحدة"),
           (.two, .fixed "قبل سنتين"), (.few, .around "قبل " " سنوات"),
           (.many, .around "قبل " " سنة"), (.other, .around "قبل " " سنة")]⟩,
   ⟨"quarter",
    .long,
    some [(.zero, .around "خلال " " ربع سنة"),
           (.one, .fixed "خلال ربع سنة واحد"),
           (.two, .fixed "خلال ربعي سنة"),
           (.few, .around "خلال " " أرباع سنة"),
           (.many, .around "خلال " " ربع سنة"),
           (.other, .around "خلال " " ربع سنة")],
    some [(.zero, .around "قبل " " ربع سنة"),
           (.one, .fixed "قبل ربع سنة واحد"),
           (.two, .fixed "قبل ربعي سنة"),
           (.few, .around "قبل " " أرباع سنة"),
           (.many, .around "قبل " " ربع سنة"),
           (.other, .around "قبل " " ربع سنة")]⟩,
   ⟨"month",
    .long,
    some [(.zero, .around "خلال " " شهر"),
           (.one, .fixed "خلال شهر واحد"),
           (.two, .fixed "خلال شهرين"),
           (.few, .around "خلال " " أشهر"),
           (.many, .around "خلال " " شهر\u064bا"),
           (.other, .around "خلال " " شهر")],
    some [(.zero, .around "قبل " " شهر"),
           (.one, .fixed "قبل شهر واحد"),
           (.two, .fixed "قبل شهرين"),
           (.few, .around "قبل " " أشهر"),
           (.many, .around "قبل " " شهر\u064bا"),
           (.other, .around "قبل " " شهر")]⟩,
   ⟨"month",
    .short,
    none,
    some [(.zero, .around "قبل " " شهر"),
           (.one, .fixed "قبل شهر واحد"),
           (.two, .fixed "قبل شهرين"),
           (.few, .around "خلال " " أشهر"),
           (.many, .around "قبل " " شهر\u064bا"),
           (.other, .around "قبل " " شهر")]⟩,
   ⟨"month",
    .narrow,
    none,
    some [(.zero, .around "قبل " " شهر"),
           (.one, .fixed "قبل شهر واحد"),
           (.two, .fixed "قبل شهرين"),
           (.few, .around "قبل " " أشهر"),
           (.many, .around "قبل " " شهر\u064bا"),
           (.other, .around "قبل " " شهر")]⟩,
   ⟨"week",
    .long,
    some [(.zero, .around "خلال " " أسبوع"),
           (.one, .fixed "خلال أسبوع واحد"),
           (.two, .fixed "خلال أسبوعين"),
           (.few, .around "خلال " " أسابيع"),
           (.many, .around "خلال " " أسبوع\u064bا"),
           (.other, .around "خلال " " أسبوع")],
    some [(.zero, .around "قبل " " أسبوع"),
           (.one, .fixed "قبل أسبوع واحد"),
           (.two, .fixed "قبل أسبوعين"),
           (.few, .around "قبل " " أسابيع"),
           (.many, .around "قبل " " أسبوع\u064bا"),
           (.other, .around "قبل " " أسبوع")]⟩,
   ⟨"week",
    .short,
    some [(.zero, .around "خلال " " أسبوع"),
           (.one, .fixed "خلال أسبوع واحد"),
           (.two, .around "خلال " " أسبوعين"),
           (.few, .around "خلال " " أسابيع"),
           (.many, .around "خلال " " أسبوع\u064bا"),
           (.other, .around "خلال " " أسبوع")],
    none⟩,
   ⟨"week",
    .narrow,
    some [(.zero, .around "خلال " " أسبوع"),
           (.one, .fixed "خلال أسبوع واحد"),
           (.two, .fixed "خلال أسبوعين"),
           (.few, .around "خلال " " أسابيع"),
           (.many, .around "خلال " " أسبوع\u064bا"),
           (.other, .around "خلال " " أسبوع")],
    none⟩,
   ⟨"day",
    .long,
    some [(.zero, .around "خلال " " يوم"),
           (.one, .fixed "خلال يوم واحد"),
           (.two, .fixed "خلال يومين"),
           (.few, .around "خلال " " أيام"),
           (.many, .around "خلال " " يوم\u064bا"),
           (.other, .around "خلال " " يوم")],
    some [(.zero, .around "قبل " " يوم"),
           (.one, .fixed "قبل يوم واحد"),
           (.two, .fixed "قبل يومين"),
           (.few, .around "قبل " " أيام"),
           (.many, .around "قبل " " يوم\u064bا"),
           (.other, .around "قبل " " يوم")]⟩,
   ⟨"hour",
    .long,
    some [(.zero, .around "خلال " " ساعة"), (.one, .fixed "خلال ساعة واحدة"),
           (.two, .fixed "خلال ساعتين"), (.few, .around "خلال " " ساعات"),
           (.many, .around "خلال " " ساعة"), (.other, .around "خلال " " ساعة")],
    some [(.zero, .around "قبل " " ساعة"), (.one, .fixed "قبل ساعة واحدة"),
           (.two, .fixed "قبل ساعتين"), (.few, .around "قبل " " ساعات"),
           (.many, .around "قبل " " ساعة"), (.other, .around "قبل " " ساعة")]⟩,
   ⟨"minute",
    .long,
    some [(.zero, .around "خلال " " دقيقة"), (.one, .fixed "خلال دقيقة واحدة"),
           (.two, .fixed "خلال دقيقتين"), (.few, .around "خلال " " دقائق"),
           (.many, .around "خلال " " دقيقة"), (.other, .around "خلال " " دقيقة")],
    some [(.zero, .around "قبل " " دقيقة"), (.one, .fixed "قبل دقيقة واحدة"),
           (.two, .fixed "قبل دقيقتين"), (.few, .around "قبل " " دقائق"),
           (.many, .around "قبل " " دقيقة"), (.other, .around "قبل " " دقيقة")]⟩,
   ⟨"second",
    .long,
    some [(.zero, .around "خلال " " ثانية"),
           (.one, .fixed "خلال ثانية واحدة"),
           (.two, .fixed "خلال ثانيتين"),
           (.few, .around "خلال " " ثوان\u064d"),
           (.many, .around "خلال " " ثانية"),
           (.other, .around "خلال " " ثانية")],
    some [(.zero, .around "قبل " " ثانية"),
           (.one, .fixed "قبل ثانية واحدة"),
           (.two, .fixed "قبل ثانيتين"),
           (.few, .around "قبل " " ثوان\u0650"),
           (.many, .around "قبل " " ثانية"),
           (.other, .around "قبل " " ثانية")]⟩,
   ⟨"second",
    .short,
    none,
    some [(.zero, .around "قبل " " ثانية"),
           (.one, .fixed "قبل ثانية واحدة"),
           (.two, .fixed "قبل ثانيتين"),
           (.few, .around "قبل " " ثوان\u064d"),
           (.many, .around "قبل " " ثانية"),
           (.other, .around "قبل " " ثانية")]⟩]

def entry : Entry where
  cardinal :=
    [(.zero, [[isIn .n [(0, 0)]]]),
     (.one, [[isIn .n [(1, 1)]]]),
     (.two, [[isIn .n [(2, 2)]]]),
     (.few, [[restIn .n 100 [(3, 10)]]]),
     (.many, [[restIn .n 100 [(11, 99)]]])]
  numberingSystem := "arab"
  numbers := some numbers
  lists := lists
  relative := relative

end MessageFormat.Locale.Cldr.Arabic
