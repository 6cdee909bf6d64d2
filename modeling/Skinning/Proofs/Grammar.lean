import Skinning.Coordinate.Reader

/-! The grammar of coordinate formulas, and that the reader accepts exactly what it derives,
with the tree of the derivation. The reader's pending items are the part of a derivation
that is open to the left of a token. -/
namespace Skinning.Coordinate

inductive Phrase where
  | sum
  | product
  | signed
  | measured
  | atom
  deriving DecidableEq, Repr

/-- Which tokens are a phrase, and its formula. There is one constructor for each rule. -/
inductive Derives : Phrase → List Token → Expr → Prop where
  | add : Derives .sum ls l → Derives .product rs r →
      Derives .sum (ls ++ .plus :: rs) (.add l r)
  | sub : Derives .sum ls l → Derives .product rs r →
      Derives .sum (ls ++ .minus :: rs) (.sub l r)
  | product : Derives .product ts t → Derives .sum ts t
  | mul : Derives .product ls l → Derives .signed rs r →
      Derives .product (ls ++ .star :: rs) (.mul l r)
  | div : Derives .product ls l → Derives .signed rs r →
      Derives .product (ls ++ .slash :: rs) (.div l r)
  | signed : Derives .signed ts t → Derives .product ts t
  | neg : Derives .signed ts t → Derives .signed (.minus :: ts) (.neg t)
  | pos : Derives .signed ts t → Derives .signed (.plus :: ts) t
  | measured : Derives .measured ts t → Derives .signed ts t
  | charWidth : Derives .measured ts t →
      Derives .measured (ts ++ [.charWidth]) (.scaled t .charWidth)
  | lineHeight : Derives .measured ts t →
      Derives .measured (ts ++ [.lineHeight]) (.scaled t .lineHeight)
  | percent : Derives .measured ts t → Derives .measured (ts ++ [.percent]) (.scaled t .percent)
  | atom : Derives .atom ts t → Derives .measured ts t
  | number : Derives .atom [.number value] (.number value)
  | center : Derives .atom [.center] (.symbol .center)
  | half : Derives .atom [.half] (.symbol .half)
  | extent : Derives .atom [.extent] (.symbol .extent)
  | factor : Derives .atom [.factor] (.symbol .factor)
  | parentheses : Derives .sum ts t → Derives .atom (.opening :: ts ++ [.closing]) t

def Symbol.token : Symbol → Token
  | .center => .center
  | .half => .half
  | .extent => .extent
  | .factor => .factor

def Unit.token : Unit → Token
  | .charWidth => .charWidth
  | .lineHeight => .lineHeight
  | .percent => .percent

theorem Symbol.derives_token (name : Symbol) : Derives .atom [name.token] (.symbol name) := by
  cases name with
  | center => exact .center
  | half => exact .half
  | extent => exact .extent
  | factor => exact .factor

theorem Unit.derives_token {tokens : List Token} {inner : Expr} (unit : Unit)
    (derives : Derives .measured tokens inner) :
    Derives .measured (tokens ++ [unit.token]) (.scaled inner unit) := by
  cases unit with
  | charWidth => exact .charWidth derives
  | lineHeight => exact .lineHeight derives
  | percent => exact .percent derives

def Progress.run (progress : Progress) (tokens : List Token) : Option Progress :=
  tokens.foldlM Progress.step? progress

@[simp] theorem Progress.run_nil (progress : Progress) : progress.run [] = some progress := rfl

@[simp] theorem Progress.run_cons (progress : Progress) (token : Token) (tokens : List Token) :
    progress.run (token :: tokens) = (progress.step? token).bind (·.run tokens) := rfl

@[simp] theorem Progress.run_append (progress : Progress) (xs ys : List Token) :
    progress.run (xs ++ ys) = (progress.run xs).bind (·.run ys) := List.foldlM_append

/-- A text is a formula when its tokens, and nothing else, lead to a point where it may end. -/
theorem Progress.read_eq_ok_iff (fault? : Option Nat) (progress : Progress) (stop : Nat)
    (lexemes : List Lexeme) (formula : Expr) :
    progress.read fault? stop lexemes = .ok formula ↔
      fault? = none ∧
        (progress.run (lexemes.map Lexeme.token)).bind Progress.finish? = some formula := by
  induction lexemes generalizing progress stop with
  | nil =>
    cases fault? with
    | some offset => simp [read]
    | none => cases finished : progress.finish? <;> simp [read, finished]
  | cons lexeme rest ih =>
    cases next : progress.step? lexeme.token with
    | none => simp [read, next]
    | some progress => simp [read, next, ih]

/-! From a derivation to a run. -/

/-- Pending items that no phrase of a kind can finish. -/
def Waits : Phrase → List Pending → Prop
  | .sum, pending => pending = [] ∨ ∃ rest, pending = .opening :: rest
  | .product, pending =>
    (pending = [] ∨ ∃ rest, pending = .opening :: rest) ∨
      ∃ left rest, pending = .add left :: rest ∨ pending = .sub left :: rest
  | _, _ => True

/-- The value and the pending items after a phrase that was read where others were pending.
Signs and operators of the phrase may still be among them. -/
def Amounts (formula : Expr) (pending : List Pending) (value : Expr) (after : List Pending) :
    Phrase → Prop
  | .sum => finishSum value after = (formula, pending)
  | .product => finishTerm value after = (formula, pending)
  | .signed => finishUnary value after = finishUnary formula pending
  | .measured | .atom => value = formula ∧ after = pending

theorem finishUnary_of_waits {pending : List Pending} (waits : Waits .product pending)
    (value : Expr) : finishUnary value pending = (value, pending) := by
  rcases waits with (rfl | ⟨rest, rfl⟩) | ⟨left, rest, rfl | rfl⟩ <;> rfl

theorem finishTerm_of_finishUnary {pending after : List Pending} {formula value : Expr}
    (waits : Waits .product pending) (finished : finishUnary value after = (formula, pending)) :
    finishTerm value after = (formula, pending) := by
  rcases waits with (rfl | ⟨rest, rfl⟩) | ⟨left, rest, rfl | rfl⟩ <;> simp [finishTerm, finished]

theorem finishSum_of_finishTerm {pending after : List Pending} {formula value : Expr}
    (waits : Waits .sum pending) (finished : finishTerm value after = (formula, pending)) :
    finishSum value after = (formula, pending) := by
  rcases waits with rfl | ⟨rest, rfl⟩ <;> simp [finishSum, finished]

/-- An operator between two phrases waits while the second one is read. -/
theorem run_operator {pending after after' : List Pending} {value value' : Expr} {item : Pending}
    {token : Token} {ls rs : List Token}
    (left : (Progress.operand pending).run ls = some (.operator value after))
    (step : (Progress.operator value after).step? token = some (.operand (item :: pending)))
    (right : (Progress.operand (item :: pending)).run rs = some (.operator value' after')) :
    (Progress.operand pending).run (ls ++ token :: rs) = some (.operator value' after') := by
  simp [left, step, right]

/-- Reading a phrase ends with its formula, apart from what can still be finished. -/
theorem run_of_derives {phrase : Phrase} {tokens : List Token} {formula : Expr}
    (derives : Derives phrase tokens formula) :
    ∀ pending, Waits phrase pending → ∃ value after,
      (Progress.operand pending).run tokens = some (.operator value after) ∧
        Amounts formula pending value after phrase := by
  induction derives with
  | @add ls l rs r _ _ left right =>
    intro pending waits
    obtain ⟨value, after, run, finished⟩ := left pending waits
    obtain ⟨value', after', run', finished'⟩ :=
      right (.add l :: pending) (.inr ⟨l, pending, .inl rfl⟩)
    simp only [Amounts] at finished finished'
    exact ⟨value', after', run_operator run (by simp [Progress.step?, finished]) run',
      by simp [Amounts, finishSum, finished']⟩
  | @sub ls l rs r _ _ left right =>
    intro pending waits
    obtain ⟨value, after, run, finished⟩ := left pending waits
    obtain ⟨value', after', run', finished'⟩ :=
      right (.sub l :: pending) (.inr ⟨l, pending, .inr rfl⟩)
    simp only [Amounts] at finished finished'
    exact ⟨value', after', run_operator run (by simp [Progress.step?, finished]) run',
      by simp [Amounts, finishSum, finished']⟩
  | product _ ih =>
    intro pending waits
    obtain ⟨value, after, run, finished⟩ := ih pending (.inl waits)
    exact ⟨value, after, run, finishSum_of_finishTerm waits finished⟩
  | @mul ls l rs r _ _ left right =>
    intro pending waits
    obtain ⟨value, after, run, finished⟩ := left pending waits
    obtain ⟨value', after', run', finished'⟩ := right (.mul l :: pending) trivial
    simp only [Amounts] at finished finished'
    exact ⟨value', after', run_operator run (by simp [Progress.step?, finished]) run',
      by simp [Amounts, finishTerm, finished', finishUnary]⟩
  | @div ls l rs r _ _ left right =>
    intro pending waits
    obtain ⟨value, after, run, finished⟩ := left pending waits
    obtain ⟨value', after', run', finished'⟩ := right (.div l :: pending) trivial
    simp only [Amounts] at finished finished'
    exact ⟨value', after', run_operator run (by simp [Progress.step?, finished]) run',
      by simp [Amounts, finishTerm, finished', finishUnary]⟩
  | signed _ ih =>
    intro pending waits
    obtain ⟨value, after, run, finished⟩ := ih pending trivial
    refine ⟨value, after, run, finishTerm_of_finishUnary waits ?_⟩
    rw [← finishUnary_of_waits waits]
    exact finished
  | neg _ ih =>
    intro pending _
    obtain ⟨value, after, run, finished⟩ := ih (.neg :: pending) trivial
    exact ⟨value, after, by simpa [Progress.step?] using run, finished⟩
  | pos _ ih =>
    intro pending _
    obtain ⟨value, after, run, finished⟩ := ih (.pos :: pending) trivial
    exact ⟨value, after, by simpa [Progress.step?] using run, finished⟩
  | measured _ ih =>
    intro pending _
    obtain ⟨value, after, run, rfl, rfl⟩ := ih pending trivial
    exact ⟨value, after, run, rfl⟩
  | charWidth _ ih | lineHeight _ ih | percent _ ih =>
    intro pending _
    obtain ⟨value, after, run, rfl, rfl⟩ := ih pending trivial
    exact ⟨_, after, by simp [run, Progress.step?], rfl, rfl⟩
  | atom _ ih => exact ih
  | number | center | half | extent | factor =>
    exact fun pending _ => ⟨_, pending, rfl, rfl, rfl⟩
  | parentheses _ ih =>
    intro pending _
    obtain ⟨value, after, run, finished⟩ := ih (.opening :: pending) (.inr ⟨pending, rfl⟩)
    simp only [Amounts] at finished
    exact ⟨_, pending, by simp [run, Progress.step?, finished], rfl, rfl⟩

/-! From a run to a derivation. -/

/-- With the given items pending after the given tokens, the next tokens are to be a phrase. -/
inductive Awaits : Phrase → List Pending → List Token → Prop where
  | start : Awaits .sum [] []
  | opening : Awaits .signed pending ts → Awaits .sum (.opening :: pending) (ts ++ [.opening])
  | sum : Awaits .sum pending ts → Awaits .product pending ts
  | add : Awaits .sum pending ts → Derives .sum ls l →
      Awaits .product (.add l :: pending) (ts ++ (ls ++ [.plus]))
  | sub : Awaits .sum pending ts → Derives .sum ls l →
      Awaits .product (.sub l :: pending) (ts ++ (ls ++ [.minus]))
  | product : Awaits .product pending ts → Awaits .signed pending ts
  | mul : Awaits .product pending ts → Derives .product ls l →
      Awaits .signed (.mul l :: pending) (ts ++ (ls ++ [.star]))
  | div : Awaits .product pending ts → Derives .product ls l →
      Awaits .signed (.div l :: pending) (ts ++ (ls ++ [.slash]))
  | neg : Awaits .signed pending ts → Awaits .signed (.neg :: pending) (ts ++ [.minus])
  | pos : Awaits .signed pending ts → Awaits .signed (.pos :: pending) (ts ++ [.plus])

/-- Tokens that end with a phrase for which the items before it were waiting. -/
def Ends (phrase : Phrase) (tokens : List Token) (finished : Expr × List Pending) : Prop :=
  ∃ before own, tokens = before ++ own ∧ Awaits phrase finished.2 before ∧
    Derives phrase own finished.1

theorem finishTerm_ends {pending : List Pending} {before own : List Token} {value : Expr} :
    Awaits .signed pending before → Derives .signed own value →
      Ends .product (before ++ own) (finishTerm value pending)
  | .product awaits, derives => by
    have waits : Waits .product pending := by
      cases awaits with
      | sum awaits =>
        cases awaits with
        | start => exact .inl (.inl rfl)
        | opening => exact .inl (.inr ⟨_, rfl⟩)
      | add => exact .inr ⟨_, _, .inl rfl⟩
      | sub => exact .inr ⟨_, _, .inr rfl⟩
    rw [finishTerm_of_finishUnary waits (finishUnary_of_waits waits value)]
    exact ⟨before, own, rfl, awaits, .signed derives⟩
  | .mul awaits left, derives => ⟨_, _, by simp, awaits, .mul left derives⟩
  | .div awaits left, derives => ⟨_, _, by simp, awaits, .div left derives⟩
  | .neg awaits, derives => by
    simpa [finishTerm, finishUnary] using finishTerm_ends awaits (.neg derives)
  | .pos awaits, derives => by
    simpa [finishTerm, finishUnary] using finishTerm_ends awaits (.pos derives)

theorem finishSum_ends {pending : List Pending} {tokens : List Token} {value : Expr}
    (ends : Ends .product tokens (finishTerm value pending)) :
    Ends .sum tokens (finishSum value pending) := by
  unfold finishSum
  obtain ⟨before, own, rfl, awaits, derives⟩ := ends
  generalize finishTerm value pending = finished at awaits derives
  obtain ⟨right, rest⟩ := finished
  cases awaits with
  | sum awaits =>
    cases awaits with
    | start => exact ⟨[], own, rfl, .start, .product derives⟩
    | opening awaits => exact ⟨_, own, rfl, .opening awaits, .product derives⟩
  | add awaits left => exact ⟨_, _, by simp, awaits, .add left derives⟩
  | sub awaits left => exact ⟨_, _, by simp, awaits, .sub left derives⟩

/-- What the tokens that were read are to the reader. -/
def Progress.Holds (tokens : List Token) : Progress → Prop
  | .operand pending => Awaits .signed pending tokens
  | .operator value pending =>
    ∃ before own, tokens = before ++ own ∧ Awaits .signed pending before ∧
      Derives .measured own value

theorem Progress.Holds.product_ends {tokens : List Token} {value : Expr} {pending : List Pending}
    (holds : (Progress.operator value pending).Holds tokens) :
    Ends .product tokens (finishTerm value pending) := by
  obtain ⟨before, own, rfl, awaits, derives⟩ := holds
  exact finishTerm_ends awaits (.measured derives)

theorem Progress.Holds.sum_ends {tokens : List Token} {value : Expr} {pending : List Pending}
    (holds : (Progress.operator value pending).Holds tokens) :
    Ends .sum tokens (finishSum value pending) :=
  finishSum_ends holds.product_ends

/-- In front of an operand only signs and parentheses add to what is pending. -/
theorem Progress.Holds.operand_step {tokens : List Token} {pending : List Pending} {token : Token}
    {next : Progress} (holds : (Progress.operand pending).Holds tokens)
    (step : (Progress.operand pending).step? token = some next) :
    next.Holds (tokens ++ [token]) := by
  cases token with
  | minus =>
    obtain rfl := Option.some.inj step
    exact .neg holds
  | plus =>
    obtain rfl := Option.some.inj step
    exact .pos holds
  | opening =>
    obtain rfl := Option.some.inj step
    exact .product (.sum (.opening holds))
  | number value =>
    obtain rfl := Option.some.inj step
    exact ⟨tokens, _, rfl, holds, .atom .number⟩
  | center =>
    obtain rfl := Option.some.inj step
    exact ⟨tokens, _, rfl, holds, .atom .center⟩
  | half =>
    obtain rfl := Option.some.inj step
    exact ⟨tokens, _, rfl, holds, .atom .half⟩
  | extent =>
    obtain rfl := Option.some.inj step
    exact ⟨tokens, _, rfl, holds, .atom .extent⟩
  | factor =>
    obtain rfl := Option.some.inj step
    exact ⟨tokens, _, rfl, holds, .atom .factor⟩
  | _ => contradiction

theorem Progress.Holds.operator_step {tokens : List Token} {value : Expr} {pending : List Pending}
    {token : Token} {next : Progress} (holds : (Progress.operator value pending).Holds tokens)
    (step : (Progress.operator value pending).step? token = some next) :
    next.Holds (tokens ++ [token]) := by
  cases token with
  | charWidth =>
    obtain rfl := Option.some.inj step
    obtain ⟨before, own, rfl, awaits, derives⟩ := holds
    exact ⟨before, _, List.append_assoc .., awaits, .charWidth derives⟩
  | lineHeight =>
    obtain rfl := Option.some.inj step
    obtain ⟨before, own, rfl, awaits, derives⟩ := holds
    exact ⟨before, _, List.append_assoc .., awaits, .lineHeight derives⟩
  | percent =>
    obtain rfl := Option.some.inj step
    obtain ⟨before, own, rfl, awaits, derives⟩ := holds
    exact ⟨before, _, List.append_assoc .., awaits, .percent derives⟩
  | star =>
    obtain rfl := Option.some.inj step
    obtain ⟨before, own, rfl, awaits, derives⟩ := holds.product_ends
    rw [List.append_assoc]
    exact .mul awaits derives
  | slash =>
    obtain rfl := Option.some.inj step
    obtain ⟨before, own, rfl, awaits, derives⟩ := holds.product_ends
    rw [List.append_assoc]
    exact .div awaits derives
  | plus =>
    obtain rfl := Option.some.inj step
    obtain ⟨before, own, rfl, awaits, derives⟩ := holds.sum_ends
    rw [List.append_assoc]
    exact .product (.add awaits derives)
  | minus =>
    obtain rfl := Option.some.inj step
    obtain ⟨before, own, rfl, awaits, derives⟩ := holds.sum_ends
    rw [List.append_assoc]
    exact .product (.sub awaits derives)
  | closing =>
    have ends := holds.sum_ends
    simp only [step?] at step
    split at step
    · next inner rest finished =>
      obtain rfl := Option.some.inj step
      rw [finished] at ends
      obtain ⟨before, own, rfl, awaits, derives⟩ := ends
      cases awaits with
      | opening awaits =>
        exact ⟨_, _, by simp, awaits, .atom (.parentheses derives)⟩
    · contradiction
  | _ => contradiction

theorem Progress.Holds.run {tokens read : List Token} {progress final : Progress}
    (holds : progress.Holds read) (run : progress.run tokens = some final) :
    final.Holds (read ++ tokens) := by
  induction tokens generalizing progress read with
  | nil =>
    obtain rfl := Option.some.inj run
    rwa [List.append_nil]
  | cons token rest ih =>
    rw [Progress.run_cons] at run
    obtain ⟨next, step, run⟩ := Option.bind_eq_some_iff.mp run
    rw [List.append_cons]
    refine ih ?_ run
    cases progress with
    | operand pending => exact holds.operand_step step
    | operator value pending => exact holds.operator_step step

theorem Progress.Holds.finish {tokens : List Token} {progress : Progress} {formula : Expr}
    (holds : progress.Holds tokens) (finished : progress.finish? = some formula) :
    Derives .sum tokens formula := by
  cases progress with
  | operand pending => contradiction
  | operator value pending =>
    have ends := holds.sum_ends
    simp only [finish?] at finished
    split at finished
    · next final empty =>
      obtain rfl := Option.some.inj finished
      rw [empty] at ends
      obtain ⟨before, own, rfl, awaits, derives⟩ := ends
      cases awaits
      exact derives
    · contradiction

/-- The reader finds the tree of a derivation, if there is one. -/
theorem run_iff_derives {tokens : List Token} {formula : Expr} :
    ((Progress.operand []).run tokens).bind Progress.finish? = some formula ↔
      Derives .sum tokens formula := by
  constructor
  · intro found
    obtain ⟨final, run, finished⟩ := Option.bind_eq_some_iff.mp found
    have initial : (Progress.operand []).Holds [] := .product (.sum .start)
    exact (initial.run run).finish finished
  · intro derives
    obtain ⟨value, after, run, finished⟩ := run_of_derives derives [] (.inl rfl)
    simp only [Amounts] at finished
    simp [run, Progress.finish?, finished]

theorem Expr.ofLexing_eq_ok_iff {lexing : Lexing} {formula : Expr} :
    ofLexing lexing = .ok formula ↔
      lexing.fault? = none ∧ Derives .sum (lexing.lexemes.map Lexeme.token) formula := by
  rw [ofLexing, Progress.read_eq_ok_iff, run_iff_derives]

theorem Expr.ofString_eq_ok_iff {input : String} {formula : Expr} :
    ofString input = .ok formula ↔ ofLexing (Lexing.ofString input) = .ok formula := by
  unfold ofString
  split <;> simp [*]

/-- A text is read as a formula exactly if its tokens, up to its end, derive from the grammar
with that formula; and tokens derive with one formula at most. -/
theorem ofString_iff_derives :
    (∀ (input : String) (formula : Expr), Expr.ofString input = .ok formula ↔
      (Lexing.ofString input).fault? = none ∧
        Derives .sum ((Lexing.ofString input).lexemes.map Lexeme.token) formula) ∧
      ∀ (tokens : List Token) (a b : Expr), Derives .sum tokens a → Derives .sum tokens b →
        a = b := by
  refine ⟨fun input formula => ?_, fun tokens a b first second => ?_⟩
  · have read := Progress.read_eq_ok_iff (Lexing.ofString input).fault? (.operand []) 0
      (Lexing.ofString input).lexemes formula
    rw [run_iff_derives] at read
    rw [← read]
    unfold Expr.ofString Expr.ofLexing
    split <;> simp [*]
  · have found := run_iff_derives.mpr first
    rw [run_iff_derives.mpr second] at found
    exact (Option.some.inj found).symm

end Skinning.Coordinate
