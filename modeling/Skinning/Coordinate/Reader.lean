import Skinning.Coordinate.Expr
import Skinning.Coordinate.Fault

/-! Reading a formula. The reader takes one token at a time and keeps what is still
open: operators that wait for their right operand, signs and parentheses. A binary
operator, a closing parenthesis or the end finishes whatever binds more strongly.
From the loosest: left-associative sums, left-associative products, signs, units. -/
namespace Skinning.Coordinate

/-- What waits for an operand to its right. -/
inductive Pending where
  | neg
  | pos
  | add (left : Expr)
  | sub (left : Expr)
  | mul (left : Expr)
  | div (left : Expr)
  | opening

/-- The innermost pending item comes first. -/
inductive Progress where
  | operand (pending : List Pending)
  | operator (value : Expr) (pending : List Pending)

def finishUnary (value : Expr) : List Pending → Expr × List Pending
  | .neg :: rest => finishUnary (.neg value) rest
  | .pos :: rest => finishUnary value rest
  | pending => (value, pending)

def finishTerm (value : Expr) (pending : List Pending) : Expr × List Pending :=
  match finishUnary value pending with
  | (right, .mul left :: rest) => (.mul left right, rest)
  | (right, .div left :: rest) => (.div left right, rest)
  | finished => finished

def finishSum (value : Expr) (pending : List Pending) : Expr × List Pending :=
  match finishTerm value pending with
  | (right, .add left :: rest) => (.add left right, rest)
  | (right, .sub left :: rest) => (.sub left right, rest)
  | finished => finished

def Pending.isOpen : Pending → Bool
  | .opening => true
  | _ => false

def isNested (pending : List Pending) : Bool := pending.any Pending.isOpen

/-- One token further, or `none` if no formula goes on with it. -/
def Progress.step? : Progress → Token → Option Progress
  | .operand pending, token =>
    match token with
    | .number value => some (.operator (.number value) pending)
    | .center => some (.operator (.symbol .center) pending)
    | .half => some (.operator (.symbol .half) pending)
    | .extent => some (.operator (.symbol .extent) pending)
    | .factor => some (.operator (.symbol .factor) pending)
    | .minus => some (.operand (.neg :: pending))
    | .plus => some (.operand (.pos :: pending))
    | .opening => some (.operand (.opening :: pending))
    | _ => none
  | .operator value pending, token =>
    match token with
    | .charWidth => some (.operator (.scaled value .charWidth) pending)
    | .lineHeight => some (.operator (.scaled value .lineHeight) pending)
    | .percent => some (.operator (.scaled value .percent) pending)
    | .star =>
      let (left, rest) := finishTerm value pending
      some (.operand (.mul left :: rest))
    | .slash =>
      let (left, rest) := finishTerm value pending
      some (.operand (.div left :: rest))
    | .plus =>
      let (left, rest) := finishSum value pending
      some (.operand (.add left :: rest))
    | .minus =>
      let (left, rest) := finishSum value pending
      some (.operand (.sub left :: rest))
    | .closing =>
      match finishSum value pending with
      | (inner, .opening :: rest) => some (.operator inner rest)
      | _ => none
    | _ => none

/-- What could have stood in place of a token that cannot follow. A closing parenthesis
is only weighed against what may follow a finished sum. -/
def Progress.expected : Progress → Option Token → Expected
  | .operand _, _ => .operand
  | .operator _ pending, some .closing | .operator _ pending, none => .continuation (isNested pending)
  | .operator _ pending, some _ => .operator (isNested pending)

def Progress.finish? : Progress → Option Expr
  | .operand _ => none
  | .operator value pending =>
    match finishSum value pending with
    | (formula, []) => some formula
    | _ => none

/-- Reads lexemes in order. A token that cannot follow is met before a character that
starts no token, and the end before neither. -/
def Progress.read (fault? : Option Nat) (progress : Progress) (stop : Nat) :
    List Lexeme → Except SyntaxFault Expr
  | [] =>
    match fault? with
    | some offset => .error (.unreadable offset)
    | none =>
      match progress.finish? with
      | some formula => .ok formula
      | none => .error (.incomplete stop (progress.expected none))
  | lexeme :: rest =>
    match progress.step? lexeme.token with
    | some next => next.read fault? lexeme.stop rest
    | none => .error (.unexpected lexeme (progress.expected (some lexeme.token)))

def Expr.ofLexing (lexing : Lexing) : Except SyntaxFault Expr :=
  (Progress.operand []).read lexing.fault? 0 lexing.lexemes

def Expr.ofString (input : String) : Except Fault Expr :=
  match Expr.ofLexing (Lexing.ofString input) with
  | .ok formula => .ok formula
  | .error fault => .error (.malformed input fault)

end Skinning.Coordinate
