import Skinning.Coordinate.Pixels
import Skinning.Proofs.DeclaredKeys
import Skinning.Proofs.Grammar
import Skinning.Proofs.LexemeTiling
import Skinning.Proofs.StyleReading

/-! What a formula refers to. It has a value only where all its symbols and units have one. There it
fails by a division and in no other way, and what it does not refer to makes no difference. -/
namespace Skinning.Coordinate

/-- A word in a formula that stands for a number that is known in some places only. -/
inductive Name where
  | symbol (symbol : Symbol)
  | unit (unit : Unit)
  deriving DecidableEq

namespace Expr

def names : Expr → List Name
  | number _ => []
  | symbol name => [.symbol name]
  | neg inner => inner.names
  | add l r | sub l r | mul l r | div l r => l.names ++ r.names
  | scaled inner unit => .unit unit :: inner.names

def divides : Expr → Bool
  | number _ | symbol _ => false
  | neg inner | scaled inner _ => inner.divides
  | add l r | sub l r | mul l r => l.divides || r.divides
  | div _ _ => true

theorem usesUnit_iff {unit : Unit} {formula : Expr} :
    formula.usesUnit unit ↔ .unit unit ∈ formula.names := by
  induction formula with
  | number | symbol => simp [usesUnit, names]
  | neg inner ih => exact ih
  | add l r left right | sub l r left right | mul l r left right | div l r left right =>
    simp only [usesUnit, names, Bool.or_eq_true, List.mem_append, left, right]
  | scaled inner other ih =>
    simp only [usesUnit, names, Bool.or_eq_true, beq_iff_eq, List.mem_cons, Name.unit.injEq, ih,
      @eq_comm _ unit]

end Expr

namespace Environment

def Binds (env : Environment) : Name → Prop
  | .symbol .factor => env.factor.isSome
  | .symbol _ | .unit .percent => env.extent.isSome
  | .unit .charWidth => env.charWidth.isSome
  | .unit .lineHeight => env.lineHeight.isSome

/-- Two environments have the same for a name. Only what is centered has a size. -/
def Agrees (env other : Environment) : Name → Prop
  | .symbol .factor => env.factor = other.factor
  | .symbol .center => env.extent = other.extent ∧ env.objectSize = other.objectSize
  | .symbol _ | .unit .percent => env.extent = other.extent
  | .unit .charWidth => env.charWidth = other.charWidth
  | .unit .lineHeight => env.lineHeight = other.lineHeight

/-- What a name stands for. -/
def value (env : Environment) : Name → Except Fault Float
  | .symbol name => env.symbol name
  | .unit unit => env.unit unit

theorem value_ok_iff {env : Environment} {name : Name} :
    (∃ value, env.value name = .ok value) ↔ env.Binds name := by
  obtain ⟨extent, _, charWidth, lineHeight, factor⟩ := env
  rcases name with symbol | unit
  · cases symbol with
    | factor => cases factor <;> simp [value, symbol, Binds]
    | _ => cases extent <;> simp [value, symbol, Binds, extentFor, Except.map]
  · cases unit with
    | charWidth => cases charWidth <;> simp [value, unit, Binds]
    | lineHeight => cases lineHeight <;> simp [value, unit, Binds]
    | percent => cases extent <;> simp [value, unit, Binds, extentFor, Except.map]

theorem not_binds_factorOnly (factor : Float) {name : Name} (other : name ≠ .symbol .factor) :
    ¬ (factorOnly factor).Binds name := by
  rcases name with symbol | unit
  · cases symbol <;> simp_all [Binds, factorOnly]
  · cases unit <;> simp [Binds, factorOnly]

theorem value_congr {env other : Environment} {name : Name} (agrees : env.Agrees other name) :
    env.value name = other.value name := by
  rcases name with symbol | unit
  · cases symbol <;> simp only [Agrees] at agrees <;>
      simp only [value, symbol, extentFor, agrees]
  · cases unit <;> simp only [Agrees] at agrees <;> simp only [value, unit, extentFor, agrees]

end Environment

/-! Evaluation. -/

namespace Expr

variable {env other : Environment}

/-- The divisor comes first, and the dividend is only evaluated if there is a quotient. -/
theorem eval_div (l r : Expr) : (div l r).eval env = r.eval env >>= fun divisor =>
    if divisor == 0 then .error .divisionByZero
    else l.eval env >>= fun dividend => .ok (dividend / divisor) := by
  rw [eval]
  congr

/-- A formula with a value refers to nothing that has none. -/
theorem binds_of_eval {formula : Expr} {value : Float} (evaluated : formula.eval env = .ok value) :
    ∀ name ∈ formula.names, env.Binds name := by
  induction formula generalizing value with
  | number => simp [names]
  | symbol name =>
    exact List.forall_mem_singleton.mpr (Environment.value_ok_iff.mp ⟨value, evaluated⟩)
  | neg inner ih =>
    obtain ⟨operand, read, -⟩ := ok_of_bind evaluated
    exact ih read
  | add l r left right | sub l r left right | mul l r left right =>
    obtain ⟨first, readLeft, evaluated⟩ := ok_of_bind evaluated
    obtain ⟨second, readRight, -⟩ := ok_of_bind evaluated
    exact List.forall_mem_append.mpr ⟨left readLeft, right readRight⟩
  | div l r left right =>
    rw [eval_div] at evaluated
    obtain ⟨divisor, readRight, evaluated⟩ := ok_of_bind evaluated
    split at evaluated
    · contradiction
    · obtain ⟨dividend, readLeft, -⟩ := ok_of_bind evaluated
      exact List.forall_mem_append.mpr ⟨left readLeft, right readRight⟩
  | scaled inner unit ih =>
    obtain ⟨factor, readUnit, evaluated⟩ := ok_of_bind evaluated
    obtain ⟨operand, read, -⟩ := ok_of_bind evaluated
    have bound : env.Binds (.unit unit) := Environment.value_ok_iff.mp ⟨factor, readUnit⟩
    exact List.forall_mem_cons.mpr ⟨bound, ih read⟩

theorem eval_error {formula : Expr} {name : Name} (among : name ∈ formula.names)
    (unbound : ¬ env.Binds name) : ∃ fault, formula.eval env = .error fault := by
  cases evaluated : formula.eval env with
  | error fault => exact ⟨fault, rfl⟩
  | ok value => exact absurd (binds_of_eval evaluated name among) unbound

/-- A value, or a division by zero where there is a division. -/
def Finishes (divides : Bool) (result : Except Fault Float) : Prop :=
  (∃ value, result = .ok value) ∨ result = .error .divisionByZero ∧ divides

theorem Finishes.bind {divides : Bool} {first : Except Fault Float}
    {next : Float → Except Fault Float} (begins : Finishes divides first)
    (follows : ∀ value, Finishes divides (next value)) : Finishes divides (first >>= next) := by
  rcases begins with ⟨value, rfl⟩ | ⟨rfl, divided⟩
  · exact follows value
  · exact .inr ⟨rfl, divided⟩

theorem Finishes.mono {divides more : Bool} {result : Except Fault Float}
    (finishes : Finishes divides result) (implies : divides → more) : Finishes more result :=
  finishes.imp_right (And.imp_right implies)

/-- Where everything is known that a formula refers to, only a division can fail. -/
theorem finishes_of_binds {formula : Expr} (bound : ∀ name ∈ formula.names, env.Binds name) :
    Finishes formula.divides (formula.eval env) := by
  induction formula with
  | number value => exact .inl ⟨value, rfl⟩
  | symbol name => exact .inl (Environment.value_ok_iff.mpr (bound _ List.mem_cons_self))
  | neg inner ih => exact (ih bound).bind fun value => .inl ⟨_, rfl⟩
  | add l r left right | sub l r left right | mul l r left right =>
    obtain ⟨boundLeft, boundRight⟩ := List.forall_mem_append.mp bound
    refine ((left boundLeft).mono fun d => ?_).bind fun first =>
      ((right boundRight).mono fun d => ?_).bind fun second => .inl ⟨_, rfl⟩
    all_goals simp [divides, d]
  | div l r left right =>
    obtain ⟨boundLeft, boundRight⟩ := List.forall_mem_append.mp bound
    rw [eval_div]
    refine ((right boundRight).mono fun _ => rfl).bind fun divisor => ?_
    split
    · exact .inr ⟨rfl, rfl⟩
    · exact ((left boundLeft).mono fun _ => rfl).bind fun dividend => .inl ⟨_, rfl⟩
  | scaled inner unit ih =>
    obtain ⟨boundUnit, boundInner⟩ := List.forall_mem_cons.mp bound
    obtain ⟨factor, read⟩ := Environment.value_ok_iff.mpr boundUnit
    have known : Finishes inner.divides (env.unit unit) := .inl ⟨factor, read⟩
    exact known.bind fun factor => (ih boundInner).bind fun operand => .inl ⟨_, rfl⟩

theorem eval_congr {formula : Expr} (agree : ∀ name ∈ formula.names, env.Agrees other name) :
    formula.eval env = formula.eval other := by
  induction formula with
  | number => rfl
  | symbol name => exact Environment.value_congr (agree _ List.mem_cons_self)
  | neg inner ih => simp only [eval, ih agree]
  | add l r left right | sub l r left right | mul l r left right | div l r left right =>
    obtain ⟨agreeLeft, agreeRight⟩ := List.forall_mem_append.mp agree
    simp only [eval, left agreeLeft, right agreeRight]
  | scaled inner unit ih =>
    obtain ⟨agreeUnit, agreeInner⟩ := List.forall_mem_cons.mp agree
    have same : env.unit unit = other.unit unit := Environment.value_congr agreeUnit
    simp only [eval, same, ih agreeInner]

end Expr

/-! The names of a formula stand in its text. -/

namespace Name

def token : Name → Token
  | symbol s => s.token
  | unit u => u.token

/-- What the word of a name begins with. -/
def initial : Name → Char
  | symbol .center | symbol .half => 'c'
  | symbol .extent => 'e'
  | symbol .factor => 'f'
  | unit .charWidth => 'w'
  | unit .lineHeight => 'h'
  | unit .percent => '%'

theorem initial_mem {name : Name} {text : List Char} (spelled : name.token.Spells text) :
    name.initial ∈ text := by
  rcases name with symbol | unit
  · cases symbol <;> cases spelled with
    | word word =>
      obtain rfl := Option.some.inj word
      decide
  · cases unit <;> cases spelled with
    | word word =>
      obtain rfl := Option.some.inj word
      decide

end Name

theorem Derives.token_mem {phrase : Phrase} {tokens : List Token} {formula : Expr}
    (derives : Derives phrase tokens formula) : ∀ name ∈ formula.names, name.token ∈ tokens := by
  induction derives with
  | add _ _ left right | sub _ _ left right | mul _ _ left right | div _ _ left right =>
    refine List.forall_mem_append.mpr ⟨fun name among => ?_, fun name among => ?_⟩
    · exact List.mem_append_left _ (left name among)
    · exact List.mem_append_right _ (List.mem_cons_of_mem _ (right name among))
  | product _ ih | signed _ ih | measured _ ih | atom _ ih => exact ih
  | neg _ ih | pos _ ih => exact fun name among => List.mem_cons_of_mem _ (ih name among)
  | charWidth _ ih | lineHeight _ ih | percent _ ih =>
    refine List.forall_mem_cons.mpr ⟨?_, fun name among => List.mem_append_left _ (ih name among)⟩
    exact List.mem_append_right _ List.mem_cons_self
  | number | center | half | extent | factor => simp [Expr.names, Name.token, Symbol.token]
  | parentheses _ ih =>
    exact fun name among => List.mem_append_left _ (List.mem_cons_of_mem _ (ih name among))

theorem Expr.initial_mem_of_ofString {input : String} {formula : Expr}
    (read : ofString input = .ok formula) : ∀ name ∈ formula.names, name.initial ∈ input.toList := by
  intro name among
  obtain ⟨-, derives⟩ := ofLexing_eq_ok_iff.mp (ofString_eq_ok_iff.mp read)
  obtain ⟨lexeme, member, same⟩ := List.mem_map.mp (derives.token_mem name among)
  have longest := (Lexing.ofString_tilesFrom input).longest lexeme member
  obtain ⟨text, spelled, before, after, split, -⟩ := longest.spelled
  have initial := Name.initial_mem (same ▸ spelled)
  rw [split]
  exact List.mem_append_left _ (List.mem_append_right _ initial)

/-! What is read without a formula has no names. -/

theorem Name.initial_not_numeral (name : Name) :
    Text.digit? 10 name.initial = none ∧ name.initial ≠ '+' ∧ name.initial ≠ '-' := by
  rcases name with symbol | unit
  · cases symbol <;> decide
  · cases unit <;> decide

theorem Name.initial_not_mem_of_readInt32 {input : String} {n : Int}
    (read : Text.readInt32 input = .ok n) (name : Name) : name.initial ∉ input.toList := by
  intro among
  obtain ⟨digitless, positive, negative⟩ := name.initial_not_numeral
  obtain ⟨signed, -⟩ := Text.readInt32_eq_ok_iff.mp read
  rcases signed.isDigit _ among with plus | minus | ⟨value, digit⟩
  · exact positive plus
  · exact negative minus
  · rw [← Text.digit?_eq_some_iff Text.isBase_ten, digitless] at digit
    cases digit

/-- A formula that refers to more than the factor is no scalar. -/
theorem evaluateScalar_error {factor : Float} {input : String} {formula : Expr} {name : Name}
    (read : Expr.ofString (Text.trim input) = .ok formula) (among : name ∈ formula.names)
    (other : name ≠ .symbol .factor) : ∃ fault, evaluateScalar factor input = .error fault := by
  obtain ⟨fault, stopped⟩ := Expr.eval_error among (Environment.not_binds_factorOnly factor other)
  have initial := Expr.initial_mem_of_ofString read name among
  unfold evaluateScalar
  dsimp only
  split
  next n integer => exact absurd initial (name.initial_not_mem_of_readInt32 integer)
  next => exact ⟨fault, by simp only [read, bind, Except.bind, stopped]⟩

theorem Site.evaluate_error {site : Site} {input : String} {formula : Expr} {unit : Unit}
    (read : Expr.ofString (Text.trim input) = .ok formula) (among : .unit unit ∈ formula.names)
    (measured : unit ≠ .percent) (fontless : site.font = none) :
    ∃ fault, site.evaluate input = .error fault := by
  have unknown : ¬ site.environment.Binds (.unit unit) := by
    cases unit <;> simp_all [Environment.Binds, Site.environment]
  obtain ⟨fault, stopped⟩ := Expr.eval_error among unknown
  have initial := Expr.initial_mem_of_ofString read _ among
  -- The texts with rules of their own have no unit of a font in them.
  have elsewhere (s : String) (absent : 'w' ∉ s.toList ∧ 'h' ∉ s.toList) : Text.trim input ≠ s := by
    rintro rfl
    cases unit with
    | charWidth => exact absent.1 initial
    | lineHeight => exact absent.2 initial
    | percent => exact measured rfl
  have undigital : ¬ (Text.trim input).toList.all Char.isDigit := by
    intro digital
    have digit := List.all_eq_true.mp digital _ initial
    cases unit <;> exact absurd digit (by decide)
  refine ⟨fault, ?_⟩
  simp only [evaluate, undigital, Bool.and_false, Bool.false_eq_true, if_false]
  split
  next center => exact absurd center (elsewhere _ (by decide))
  next extent => exact absurd extent (elsewhere _ (by decide))
  next star => exact absurd star (elsewhere _ (by decide))
  next =>
    simp only [evaluateFormula, read, bind, Except.bind, stopped]

/-- A formula has a value only where all that it refers to has one. There it fails by a division
alone, and what it does not refer to makes no difference. So a coordinate in characters or lines
has no value without a font, and a scalar none if it refers to more than the factor. -/
theorem Expr.eval_depends_on_names (formula : Expr) :
    (∀ env value, formula.eval env = .ok value → ∀ name ∈ formula.names, env.Binds name) ∧
    (∀ env, (∀ name ∈ formula.names, env.Binds name) →
      (∃ value, formula.eval env = .ok value) ∨
        formula.eval env = .error .divisionByZero ∧ formula.divides) ∧
    (∀ env other, (∀ name ∈ formula.names, env.Agrees other name) →
      formula.eval env = formula.eval other) ∧
    ∀ input, ofString (Text.trim input) = .ok formula →
      (∀ site : Site, formula.usesUnit .charWidth ∨ formula.usesUnit .lineHeight →
        site.font = none → ∃ fault, site.evaluate input = .error fault) ∧
      ∀ factor, (∃ name ∈ formula.names, name ≠ .symbol .factor) →
        ∃ fault, evaluateScalar factor input = .error fault := by
  refine ⟨fun _ _ => binds_of_eval, fun _ => finishes_of_binds, fun _ _ => eval_congr,
    fun input read => ⟨fun site uses fontless => ?_, fun factor ⟨name, among, other⟩ => ?_⟩⟩
  · rcases uses with uses | uses
    · exact Site.evaluate_error read (usesUnit_iff.mp uses) (by decide) fontless
    · exact Site.evaluate_error read (usesUnit_iff.mp uses) (by decide) fontless
  · exact evaluateScalar_error read among other

theorem Expr.eval_depends_on_names_characters :
    let formula : Expr := .mul (.symbol .factor) (.scaled (.symbol .extent) .charWidth)
    let env : Environment := ⟨some 300, 0, some 8, none, some 2⟩
    let other : Environment := ⟨some 300, 9, some 8, some 5, some 2⟩
    let site : Site := ⟨300, 0, none, .identity, 1⟩
    formula.eval env = .ok (2 * (300 * 8)) ∧ (∀ name ∈ formula.names, env.Binds name) ∧
      ((∃ value, formula.eval env = .ok value) ∨
        formula.eval env = .error .divisionByZero ∧ formula.divides) ∧
      formula.eval env = formula.eval other ∧
      ofString (Text.trim " f*ew ") = .ok formula ∧
      (∃ fault, site.evaluate " f*ew " = .error fault) ∧
      ∃ fault, evaluateScalar 2 " f*ew " = .error fault := by
  intro formula env other site
  obtain ⟨binds, finishes, congr, fails⟩ := eval_depends_on_names formula
  have evaluated : formula.eval env = .ok (2 * (300 * 8)) := rfl
  have bound := binds env _ evaluated
  have agree : ∀ name ∈ formula.names, env.Agrees other name := by
    simp [formula, names, Environment.Agrees, env, other]
  have read : ofString (Text.trim " f*ew ") = .ok formula := by with_unfolding_all rfl
  have beyond : ∃ name ∈ formula.names, name ≠ .symbol .factor :=
    ⟨.symbol .extent, by decide, by decide⟩
  exact ⟨evaluated, bound, finishes env bound, congr env other agree, read,
    (fails _ read).1 site (.inl (by decide)) rfl, (fails _ read).2 2 beyond⟩

end Skinning.Coordinate
