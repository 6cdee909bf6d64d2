import Skinning.Text.Quoted

/-! What can be wrong with a document, and the texts that say so. -/
namespace Skinning.Markup

/-- A faulty `&…;`. Ranges are bytes of the text it stands in. -/
inductive EscapeFault where
  /-- Another `&` or the end comes before the `;`. -/
  | unterminated (start stop : Nat)
  | unknown (start stop : Nat) (name : String)
  | null (start stop : Nat)
  | longDecimal
  | longHexadecimal
  | decimalDigit (found : Char)
  | hexadecimalDigit (found : Char)
  | codepoint (number : Nat)
  deriving DecidableEq, Repr

def rangeText (start stop : Nat) : String := toString start ++ ".." ++ toString stop

def EscapeFault.message : EscapeFault → String
  | .unterminated start stop =>
    "Error while escaping character at range " ++ rangeText start stop ++
      ": Cannot find ';' after '&'"
  | .unknown start stop name =>
    "Error while escaping character at range " ++ rangeText start stop ++
      ": Unrecognized escape symbol: " ++ Text.quoted name
  | .null start stop =>
    "Error while escaping character at range " ++ rangeText start stop ++
      ": Null character entity not allowed"
  | .longDecimal => "Cannot convert decimal to utf8"
  | .longHexadecimal => "Cannot convert hexadecimal to utf8"
  | .decimalDigit found => "'" ++ found.toString ++ "' is not a valid decimal character"
  | .hexadecimalDigit found => "'" ++ found.toString ++ "' is not a valid hexadecimal character"
  | .codepoint number => "'" ++ toString number ++ "' is not a valid codepoint"

/-- What is wrong with the attributes of a tag. Positions are bytes of the tag's content. -/
inductive TagFault where
  | noEquals (position : Nat)
  | duplicate (position previous : Nat)
  | noValue (position : Nat)
  | noQuote (position : Nat)
  | unclosedQuote (position : Nat) (quote : Char)
  | value (name : String) (fault : EscapeFault)
  deriving DecidableEq, Repr

def graves (text : String) : String := "\x60" ++ text ++ "\x60"

def TagFault.message : TagFault → String
  | .noEquals position =>
    "attribute error: position " ++ toString position ++
      ": attribute key must be directly followed by " ++ graves "=" ++ " or space"
  | .duplicate position previous =>
    "attribute error: position " ++ toString position ++
      ": duplicated attribute, previous declaration at position " ++ toString previous
  | .noValue position =>
    "attribute error: position " ++ toString position ++ ": " ++ graves "=" ++
      " must be followed by an attribute value"
  | .noQuote position =>
    "attribute error: position " ++ toString position ++
      ": attribute value must be enclosed in " ++ graves "\"" ++ " or " ++ graves "'"
  | .unclosedQuote position quote =>
    "attribute error: position " ++ toString position ++ ": missing closing quote " ++
      graves quote.toString ++ " in attribute value"
  | .value name fault => "attribute '" ++ name ++ "': " ++ fault.message

inductive Construct where
  | declaration
  | comment
  | cdata
  | doctype
  | bang
  deriving DecidableEq, Repr

def Construct.name : Construct → String
  | .declaration => "XmlDecl"
  | .comment => "Comment"
  | .cdata => "CData"
  | .doctype => "DOCTYPE"
  | .bang => "Bang"

inductive Fault where
  | text (fault : EscapeFault)
  | tag (fault : TagFault)
  | incomplete (construct : Construct)
  | emptyDoctype
  | bangSymbol (found : Char)
  | mismatch (expected found : String)
  | unclosed (tag : String)
  | secondRoot (tag : String)
  | noRoot
  deriving DecidableEq, Repr

def Fault.message : Fault → String
  | .text fault => fault.message
  | .tag fault => fault.message
  | .incomplete construct => "Unexpected EOF during reading " ++ construct.name
  | .emptyDoctype => "DOCTYPE declaration must not be empty"
  | .bangSymbol found =>
    "Only Comment (" ++ graves "--" ++ "), CDATA (" ++ graves "[CDATA[" ++ ") and DOCTYPE (" ++
      graves "DOCTYPE" ++ ") nodes can start with a '!', but symbol " ++ graves found.toString ++
      " found"
  | .mismatch expected found => "Expecting </" ++ expected ++ "> found </" ++ found ++ ">"
  | .unclosed name => "unclosed element '" ++ name ++ "'"
  | .secondRoot name => "unexpected second root element '" ++ name ++ "'"
  | .noRoot => "no root element"

end Skinning.Markup
