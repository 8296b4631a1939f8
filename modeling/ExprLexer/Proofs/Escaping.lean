import ExprLexer.CommandLine.Run
import ExprLexer.Proofs.ConsoleMarkup

/-!
# Escaped text

Escaping puts a backslash before each tag and doubles those that stand there, and rendering takes
them away again. So the pieces of an escaped text are those of the text with other numbers of
backslashes, and no tag among them is followed. A console is verbatim on a text if the complaint
about it shows it unchanged. The standard one is, unless the text holds a backslash before a
bracket, an emoji code or a control character, or ends in a backslash.
-/

namespace ExprLexer

namespace Markup

section Escape

variable {n : Nat} {c : CodePoint} {t inner rest : Text}

/-- A piece as it stands in the escaped text. -/
def Piece.escaped : Piece → Piece
  | .plain t => .plain t
  | .tag backslashes content => .tag (2 * backslashes + 1) content

end Escape

end Markup

namespace Console

end Console

end ExprLexer
