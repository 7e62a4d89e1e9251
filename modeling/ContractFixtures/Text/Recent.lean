import ContractFixtures.Text.Category
import ContractFixtures.Text.Property

/-!
# The recent version

The tables of categories and properties give version 16 of the standard, which patterns follow.
Names and messages follow version 17. This module holds what changes between the two.
-/

namespace ContractFixtures.Text

/-- The categories that change, as runs; `x` stands for no change. -/
def changedCategoryLines : List String :=
  ["x661 Lo1 x1529 Lo1 x972 Lo1 x127 Lo1 x3570 Mn15 x2 Mn12 x1493 Sc1 x2772 So1 x31799 Lu1",
   "Ll1 x2 Lu1 x1 Lu1 x28 Lm1 x21457 So16 x445 So2 x54 So7 x2929 Lo26 x1387 Lm1 Lo2 x8 Po1",
   "So8 x33 Mn2 x3172 Mn1 Mc1 Mn3 Mc1 Mn1 Mc1 x584 Lo41 Lm1 Lo2 x4 Nd10 x20662 Lu25 x2 Ll25",
   "x286 Lm2 Nl3 x6145 Lo8 x1289 Lo22 x97 Lo115 x16135 So3 x445 So23 x15 So16 Sm1 x6095 Lo31",
   "x1 Lo3 Mn1 Lo2 Mn1 Lo7 Mn2 Lo5 Mn1 x8 Lo1 Lm1 x4056 So1 x158 So4 x341 Sm9 x379 So4 x50",
   "So1 x3 So1 x57 So1 x4 So1 x28 So1 x4 So1 x266 So1 x47935 Lo6 x5986 Lo12 x21762 Lo4298",
   "x904070"]

/-- The categories that change. -/
def changedCategories : Runs (Option Category) :=
  .ofLines (fun name => if name = ['x'] then none else some (Category.ofLetters name))
    changedCategoryLines

/-- The general category of a character in the recent version. -/
def recentCategory (c : Char) : Category :=
  ((changedCategories.valueAt? c.toNat).getD none).getD (category c)

/-- The characters that get the property Alphabetic; none loses it. -/
def addedAlphabetic : Runs Bool := .ofLengths
  ["2191 1 972 1 127 1 39665 2 2 1 1 1 28 1 24910 26 1387 3 50 2 3172 8 584 44 20676 25 2 25",
   "286 5 6145 8 1289 22 97 115 22733 31 1 22 8 2 53306 6 5986 12 21762 4298"]

/-- The characters with the property Alphabetic in the recent version. -/
def isAlphabetic (c : Char) : Bool :=
  if c.toNat < 128 then c.isAlpha
  else Property.holds Property.alphabetic c || Property.holds addedAlphabetic c

/-- The characters that are numbers of any kind in the recent version. -/
def isNumeric (c : Char) : Bool :=
  match recentCategory c with
  | .decimalNumber | .letterNumber | .otherNumber => true
  | _ => false

/-- Letters and numbers. -/
def isAlphanumeric (c : Char) : Bool :=
  isAlphabetic c || isNumeric c

end ContractFixtures.Text
