import Skinning.Coordinate.Token
import Skinning.Decimal.Shortest
import Skinning.Text.Integer

/-! What can be wrong with a formula, and the texts that say so. -/
namespace Skinning.Coordinate

/-- The place where a formula breaks off. After an operand, inside parentheses or not,
the operators that may follow depend on whether a token or the end was met. -/
inductive Expected where
  | operand
  | operator (nested : Bool)
  | continuation (nested : Bool)
  deriving DecidableEq, Repr

/-- The names of the tokens, in the order in which they are listed. -/
def Expected.names : Expected → List String
  | .operand => ["(", "+", "-", "c", "center", "e", "f", "num"]
  | .operator false => ["%", "*", "+", "-", "/", "h", "w"]
  | .operator true => ["%", ")", "*", "+", "-", "/", "h", "w"]
  | .continuation false => ["+", "-"]
  | .continuation true => [")", "+", "-"]

/-- Each name stands in escaped quotes inside quotes. -/
def Expected.text (expected : Expected) : String :=
  "[" ++ ", ".intercalate (expected.names.map fun name => "\"\\\"" ++ name ++ "\\\"\"") ++ "]"

inductive SyntaxFault where
  | unreadable (offset : Nat)
  | unexpected (lexeme : Lexeme) (expected : Expected)
  /-- The text ends, after the given offset, where more is needed. -/
  | incomplete (stop : Nat) (expected : Expected)
  | integer (fault : Text.IntegerFault)
  | pair (text : String)
  deriving Repr

/-- Literals are written with the fewest digits that read back, with a fraction, and
with an exponent from `1e16` on and below `1e-4`. -/
def literalLayout : Decimal.Layout := ⟨-4, 16⟩

def Token.name : Token → String
  | .number value => "Number(" ++ Decimal.text literalLayout value ++ ")"
  | .center => "Center"
  | .half => "Half"
  | .extent => "Extent"
  | .factor => "Factor"
  | .charWidth => "CharWidth"
  | .lineHeight => "LineHeight"
  | .percent => "Percent"
  | .plus => "Plus"
  | .minus => "Minus"
  | .star => "Star"
  | .slash => "Slash"
  | .opening => "LParen"
  | .closing => "RParen"

def SyntaxFault.message : SyntaxFault → String
  | .unreadable offset =>
    "User \x7b error: LexerError \x7b offset: " ++ toString offset ++ " \x7d \x7d"
  | .unexpected lexeme expected =>
    "UnrecognizedToken \x7b token: (" ++ toString lexeme.start ++ ", " ++ lexeme.token.name
      ++ ", " ++ toString lexeme.stop ++ "), expected: " ++ expected.text ++ " \x7d"
  | .incomplete stop expected =>
    "UnrecognizedEof \x7b location: " ++ toString stop ++ ", expected: " ++ expected.text ++ " \x7d"
  | .integer fault => fault.message
  | .pair text => "Invalid value pair: " ++ text

inductive Fault where
  | malformed (input : String) (fault : SyntaxFault)
  | missingFontMetrics
  /-- A symbol or unit without a value in this place. -/
  | unbound (name : String)
  | divisionByZero
  deriving Repr

def Fault.message : Fault → String
  | .malformed input fault =>
    "Coordinate '" ++ input ++ "' cannot be evaluated: " ++ fault.message
  | .missingFontMetrics => "'w' or 'h' is being used in a field where neither is valid"
  | .unbound name => "'" ++ name ++ "' is not available in this context"
  | .divisionByZero => "division by zero"

end Skinning.Coordinate
