import MessageFormat.Locale.Cldr.Entry

/-!
Languages of which only numbers, or only plural rules, are held.
-/

set_option autoImplicit false

namespace MessageFormat.Locale.Cldr.Language

open MessageFormat.PluralRelation (isIn isNotIn restIn restNotIn)

def hindiNumbers : NumberEntry where
  marks := ⟨".", ",", ⟨"+", "-", "E"⟩⟩
  decimal := "#,##,##0.###"
  percent := "#,##,##0%"
  currency := "¤#,##,##0.00"
  accounting := "¤#,##,##0.00"
  currencySymbols := [("USD", "$"), ("EUR", "€"), ("JPY", "JP¥"), ("GBP", "£"), ("INR", "₹")]

def hindi : Entry where
  cardinal := [(.one, [[isIn .i [(0, 0)]], [isIn .n [(1, 1)]]])]
  ordinal :=
    [(.one, [[isIn .n [(1, 1)]]]),
     (.two, [[isIn .n [(2, 2), (3, 3)]]]),
     (.few, [[isIn .n [(4, 4)]]]),
     (.many, [[isIn .n [(6, 6)]]])]
  numbers := some hindiNumbers

def swedishNumbers : NumberEntry where
  marks := ⟨",", "\u00a0", ⟨"+", "−", "×10^"⟩⟩
  percent := "#,##0\u00a0%"
  currency := "#,##0.00\u00a0¤"
  accounting := "#,##0.00\u00a0¤"
  currencySymbols := [("USD", "US$"), ("EUR", "€"), ("EGP", "EG£"), ("SEK", "kr")]

def swedish : Entry where
  cardinal := [(.one, [[isIn .i [(1, 1)], isIn .v [(0, 0)]]])]
  ordinal := [(.one, [[restIn .n 10 [(1, 1), (2, 2)], restNotIn .n 100 [(11, 11), (12, 12)]]])]
  ordinalSuffixes := [(.one, ":a"), (.other, ":e")]
  numbers := some swedishNumbers
  intervalJoint := "\u2009–\u2009"

def latvianNumbers : NumberEntry where
  marks := ⟨",", "\u00a0", ⟨"+", "-", "E"⟩⟩
  currency := "#,##0.00\u00a0¤"
  accounting := "#,##0.00\u00a0¤"
  currencySymbols := []

def latvian : Entry where
  cardinal :=
    [(.zero,
      [[restIn .n 10 [(0, 0)]],
       [restIn .n 100 [(11, 19)]],
       [isIn .v [(2, 2)], restIn .f 100 [(11, 19)]]]),
     (.one,
      [[restIn .n 10 [(1, 1)], restNotIn .n 100 [(11, 11)]],
       [isIn .v [(2, 2)], restIn .f 10 [(1, 1)], restNotIn .f 100 [(11, 11)]],
       [isNotIn .v [(2, 2)], restIn .f 10 [(1, 1)]]])]
  numbers := some latvianNumbers

def spanish : Entry where
  cardinal :=
    [(.one, [[isIn .n [(1, 1)]]]),
     (.many,
      [[isIn .e [(0, 0)], isNotIn .i [(0, 0)], restIn .i 1000000 [(0, 0)], isIn .v [(0, 0)]],
       [isNotIn .e [(0, 5)]]])]
  ordinalSuffixes := [(.other, "º")]

def portuguese : Entry where
  cardinal :=
    [(.one, [[isIn .i [(0, 1)]]]),
     (.many,
      [[isIn .e [(0, 0)], isNotIn .i [(0, 0)], restIn .i 1000000 [(0, 0)], isIn .v [(0, 0)]],
       [isNotIn .e [(0, 5)]]])]
  ordinalSuffixes := [(.other, "º")]

def italian : Entry where
  cardinal :=
    [(.one, [[isIn .i [(1, 1)], isIn .v [(0, 0)]]]),
     (.many,
      [[isIn .e [(0, 0)], isNotIn .i [(0, 0)], restIn .i 1000000 [(0, 0)], isIn .v [(0, 0)]],
       [isNotIn .e [(0, 5)]]])]
  ordinal := [(.many, [[isIn .n [(11, 11), (8, 8), (80, 80), (800, 800)]]])]
  ordinalSuffixes := [(.other, "º")]

def dutch : Entry where
  cardinal := [(.one, [[isIn .i [(1, 1)], isIn .v [(0, 0)]]])]
  ordinalSuffixes := [(.other, "e")]

def polish : Entry where
  cardinal :=
    [(.one, [[isIn .i [(1, 1)], isIn .v [(0, 0)]]]),
     (.few, [[isIn .v [(0, 0)], restIn .i 10 [(2, 4)], restNotIn .i 100 [(12, 14)]]]),
     (.many,
      [[isIn .v [(0, 0)], isNotIn .i [(1, 1)], restIn .i 10 [(0, 1)]],
       [isIn .v [(0, 0)], restIn .i 10 [(5, 9)]],
       [isIn .v [(0, 0)], restIn .i 100 [(12, 14)]]])]

end MessageFormat.Locale.Cldr.Language
