import DataShape.Proofs.Pattern.Reading
import DataShape.Proofs.Validation.Independence
import DataShape.Proofs.Validation.Totality

/-! What is said of a text under a pattern alone. A pattern that can be compiled is searched for in the text, and one
that is refused for its form is an issue of the schema. What else keeps a pattern from being compiled stops validation:
a repeat count beyond every bound, or flags that do not go together. -/

namespace DataShape

variable {pattern text : String} {compiled : Pattern.Compiled} {e : Pattern.Error} {fault : Pattern.Fault}
  {failure : Failure}

end DataShape
