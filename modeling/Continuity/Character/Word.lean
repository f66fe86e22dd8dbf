import Continuity.Text.Property

/-! # Words that may be names

A word of a name begins with a capital and goes on in lowercase. Words of the language that are
capitalised only because of where they stand, or by custom, are no part of a name.
-/

namespace Continuity.Character

/-- Articles, pronouns, prepositions and the like. -/
def functionWords : List String := [
  "A", "An", "The", "And", "But", "Or", "Nor", "So", "Yet", "For", "If", "In", "On", "At", "Of",
  "To", "By", "As", "Up", "With", "From", "Into", "Onto", "Upon", "Over", "Under", "About",
  "Above", "Below", "After", "Before", "Behind", "Between", "Beyond", "Through", "During",
  "Without", "Within", "Despite", "Until", "Since", "Because", "Although", "Though", "While",
  "When", "Whenever", "Where", "Wherever", "What", "Whatever", "Who", "Whom", "Whose", "Which",
  "Why", "How", "Than", "Then", "That", "This", "These", "Those", "There", "Here", "It", "Its",
  "He", "She", "They", "We", "You", "His", "Her", "Hers", "Him", "Them", "Their", "Our", "Your",
  "My", "Me", "Us", "Mine", "Yours", "Not", "No", "Yes", "All", "Any", "Some", "Each", "Every",
  "Both", "Either", "Neither", "One", "Two", "Three", "Many", "Most", "Much", "More", "Few",
  "Such", "Own", "Other", "Another", "Is", "Was", "Were", "Are", "Be", "Been", "Do", "Did",
  "Does", "Had", "Has", "Have", "Would", "Could", "Should", "Shall", "Can", "May", "Might",
  "Must", "Let"]

/-- Words that often begin a sentence, headings of parts, and titles of persons. -/
def openingWords : List String := [
  "Suddenly", "Finally", "Later", "Meanwhile", "Perhaps", "Maybe", "Still", "Now", "Soon",
  "Once", "Even", "Just", "Only", "Never", "Always", "Sometimes", "Often", "Today", "Tomorrow",
  "Yesterday", "Tonight", "However", "Therefore", "Instead", "Again", "Also", "Well", "Oh", "Ah",
  "Hey", "Hello", "Goodbye", "Thanks", "Please", "Sorry", "Dear", "Call", "Everyone",
  "Everything", "Nothing", "Nobody", "Someone", "Something", "Anyone", "Anything", "Outside",
  "Inside", "Together", "Somewhere", "Chapter", "Part", "Book", "Prologue", "Epilogue",
  "Interlude", "Scene", "Mr", "Mrs", "Ms", "Miss", "Dr", "Sir", "Madam"]

/-- The months, but for the one that is also a verb. -/
def months : List String := [
  "January", "February", "March", "April", "June", "July", "August", "September", "October",
  "November", "December"]

/-- The days of the week. -/
def weekdays : List String := [
  "Monday", "Tuesday", "Wednesday", "Thursday", "Friday", "Saturday", "Sunday"]

/-- A word that never belongs to a name. -/
def isExcludedWord (word : String) : Bool :=
  functionWords.contains word || openingWords.contains word || months.contains word ||
    weekdays.contains word

/-- Some letter is lowercase, and none is uppercase. -/
def isLowercaseWord (word : List Char) : Bool :=
  word.any Text.isLowercase && word.all fun c => !(Text.isUppercase c || Text.isTitlecase c)

/-- A capital, and then lowercase letters only. -/
def isCapitalized : List Char → Bool
  | first :: rest => Text.isUppercase first && isLowercaseWord rest
  | [] => false

end Continuity.Character
