import StreamSelect.Unicode.CharSet

/-! Sets of characters with the normalized names that they go by. -/
namespace StreamSelect.Unicode

structure NamedSet where
  names : List String
  set : CharSet

namespace NamedSet

def ofLines (names ranges : List String) : NamedSet := ⟨names, .ofLines ranges⟩

/-- The first set of a name. -/
def find? (sets : List NamedSet) (name : String) : Option CharSet :=
  (sets.find? (·.names.contains name)).map (·.set)

end NamedSet
end StreamSelect.Unicode
