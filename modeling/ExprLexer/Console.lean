import ExprLexer.Console.Markup
import ExprLexer.Console.Notice

/-!
# Consoles

The program hands markup to a console, in which it has escaped what is to be shown as it stands.
Which markup language that is, is up to the console.
-/

namespace ExprLexer

structure Console where
  escape : Text → Text
  /-- What is printed of markup on lines of its own. -/
  print : Text → Except Markup.Fault Text

def Console.standard : Console where
  escape := Markup.escape
  print t := do
    let r ← Markup.render t
    if r.hasGoodColors then return Notice.display r.text else throw .badColor

end ExprLexer
