/-!
# What is not there

Messages show a text that is not there by a word of its own.
-/

namespace ServerResources.Text

/-- The word for what is not there. -/
def absent : String := "None"

/-- A text, or the word for one that is not there. -/
def orAbsent (text : Option String) : String :=
  text.getD absent

end ServerResources.Text
