/-!
# How a text begins

Scopes of names are told apart by how the names begin, character by character.
-/

namespace ServerResources.Text

/-- Whether a text begins with another one. -/
def begins (start text : String) : Bool :=
  start.toList.isPrefixOf text.toList

theorem begins_iff (start text : String) :
    begins start text = true ↔ start.toList <+: text.toList := by
  simp [begins]

end ServerResources.Text
