/-!
# Null characters

A null character ends the texts that a system is given: paths, the values of variables and the names
of encodings. A text that has one inside cannot be handed over whole, so it is refused.
-/

namespace WordStrip.Text

/-- Whether a text has a null character. -/
def holdsNull (s : String) : Bool := s.toList.contains '\x00'

end WordStrip.Text
