/-! # Short forms of names -/

namespace Continuity.Character

/-- Given names with their usual short forms. -/
def shortForms : List (String × List String) := [
  ("Abigail", ["Abby", "Gail"]),
  ("Alexander", ["Alex", "Sandy", "Xander"]),
  ("Alexandra", ["Alex", "Sandra", "Sasha", "Lexi"]),
  ("Andrew", ["Andy", "Drew"]),
  ("Anthony", ["Tony"]),
  ("Benjamin", ["Ben", "Benny", "Benji"]),
  ("Catherine", ["Cathy", "Kate", "Katie", "Cat"]),
  ("Charles", ["Charlie", "Chuck", "Chaz"]),
  ("Christina", ["Chris", "Tina", "Christy"]),
  ("Christopher", ["Chris", "Kit", "Topher"]),
  ("Daniel", ["Dan", "Danny"]),
  ("Dorothy", ["Dot", "Dottie", "Dolly"]),
  ("Edward", ["Ed", "Eddie", "Ted", "Ned"]),
  ("Elizabeth", ["Liz", "Beth", "Betty", "Eliza", "Lizzie", "Libby"]),
  ("Frederick", ["Fred", "Freddie"]),
  ("Gregory", ["Greg"]),
  ("Harold", ["Harry", "Hal"]),
  ("Henry", ["Hank", "Harry", "Hal"]),
  ("Isabella", ["Bella", "Izzy", "Isa"]),
  ("James", ["Jim", "Jimmy", "Jamie"]),
  ("Jennifer", ["Jen", "Jenny"]),
  ("John", ["Jack", "Johnny"]),
  ("Jonathan", ["Jon", "Jonny"]),
  ("Joseph", ["Joe", "Joey"]),
  ("Josephine", ["Jo", "Josie"]),
  ("Katherine", ["Kate", "Kathy", "Katie", "Kat", "Kit"]),
  ("Margaret", ["Maggie", "Meg", "Peggy", "Marge", "Greta"]),
  ("Matthew", ["Matt", "Matty"]),
  ("Michael", ["Mike", "Mick", "Mickey"]),
  ("Nicholas", ["Nick", "Nicky", "Klaus"]),
  ("Patricia", ["Pat", "Patty", "Trish"]),
  ("Peter", ["Pete"]),
  ("Rebecca", ["Becky", "Becca"]),
  ("Richard", ["Rick", "Rich", "Dick", "Richie"]),
  ("Robert", ["Rob", "Bob", "Bobby", "Robbie", "Bert"]),
  ("Samantha", ["Sam", "Sammy"]),
  ("Samuel", ["Sam", "Sammy"]),
  ("Stephen", ["Steve", "Stevie"]),
  ("Steven", ["Steve", "Stevie"]),
  ("Susan", ["Sue", "Susie"]),
  ("Theodore", ["Theo", "Ted", "Teddy"]),
  ("Thomas", ["Tom", "Tommy"]),
  ("Victoria", ["Vicky", "Tori"]),
  ("William", ["Will", "Bill", "Billy", "Liam", "Willy"])]

/-- The first name is a short form of the second. -/
def isShortOf (short full : String) : Bool :=
  ((shortForms.lookup full).getD []).contains short

/-- The full name and the short form, when one name is a short form of the other. -/
def nicknamePair? (a b : String) : Option (String × String) :=
  if isShortOf b a then some (a, b)
  else if isShortOf a b then some (b, a)
  else none

/-- Two short forms of one name. -/
def shareFullName (a b : String) : Bool :=
  shortForms.any fun (_, shorts) => shorts.contains a && shorts.contains b

/-- One name is a short form of the other, or both are short forms of a third. -/
def areRelated (a b : String) : Bool := (nicknamePair? a b).isSome || shareFullName a b

end Continuity.Character
