import Viva.Text.Blank

/-! # Tokens

A token proves to the server who the learner is. It is kept without the blanks around it, and blanks
alone are no token.
-/

namespace Viva.Token

/-- The token in what a token file holds. -/
def ofContent? (content : String) : Option String :=
  let token := Text.trim content
  if token.isEmpty then none else some token

/-- What a token file holds for a token. -/
def toContent (token : String) : String :=
  Text.trim token

end Viva.Token
