/-!
# Dividing text

A text is divided at every separator. The separators are not part of the pieces, so there is one
piece more than there are separators, and pieces may be empty.
-/

namespace Courier.Text

/-- The pieces of a text between separators. -/
def split (separator : Char → Bool) : List Char → List (List Char)
  | [] => [[]]
  | c :: rest =>
    if separator c then [] :: split separator rest
    else
      match split separator rest with
      | [] => [[c]]
      | part :: parts => (c :: part) :: parts

end Courier.Text
