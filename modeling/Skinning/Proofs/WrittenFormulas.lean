import Skinning.Proofs.Grammar

/-! Every formula can be written down. A formula is written in parentheses where it stands in the
place of a phrase that binds more strongly than it does, and nowhere else; what is written is
read as that formula, and no shorter sequence of tokens is. -/
namespace Skinning.Coordinate

/-- How strongly the parts of a phrase are held together. -/
def Phrase.strength : Phrase → Nat
  | .sum => 0
  | .product => 1
  | .signed => 2
  | .measured => 3
  | .atom => 4

/-- The phrase that a formula is by its outermost rule. -/
def Expr.phrase : Expr → Phrase
  | .number _ | .symbol _ => .atom
  | .neg _ => .signed
  | .add _ _ | .sub _ _ => .sum
  | .mul _ _ | .div _ _ => .product
  | .scaled _ _ => .measured

/-- The tokens of a formula in the place of a phrase. -/
def Expr.within (formula : Expr) (place : Phrase) (tokens : List Token) : List Token :=
  if formula.phrase.strength < place.strength then .opening :: tokens ++ [.closing] else tokens

/-- Operators associate to the left, so only a right operand must bind more strongly. -/
def Expr.written : Expr → List Token
  | .number value => [.number value]
  | .symbol name => [name.token]
  | .neg inner => .minus :: inner.within .signed inner.written
  | .add l r => l.within .sum l.written ++ .plus :: r.within .product r.written
  | .sub l r => l.within .sum l.written ++ .minus :: r.within .product r.written
  | .mul l r => l.within .product l.written ++ .star :: r.within .signed r.written
  | .div l r => l.within .product l.written ++ .slash :: r.within .signed r.written
  | .scaled inner unit => inner.within .measured inner.written ++ [unit.token]

/-- A phrase is also every phrase that binds more weakly. -/
theorem Derives.loosen {phrase place : Phrase} {tokens : List Token} {formula : Expr}
    (derives : Derives phrase tokens formula) (looser : place.strength ≤ phrase.strength) :
    Derives place tokens formula := by
  have measured (tight : Phrase.measured.strength ≤ phrase.strength) :
      Derives .measured tokens formula := by
    cases phrase with
    | measured => exact derives
    | atom => exact .atom derives
    | _ => exact absurd tight (by decide)
  have signed (tight : Phrase.signed.strength ≤ phrase.strength) :
      Derives .signed tokens formula := by
    cases phrase with
    | signed => exact derives
    | measured | atom => exact .measured (measured (by decide))
    | _ => exact absurd tight (by decide)
  have product (tight : Phrase.product.strength ≤ phrase.strength) :
      Derives .product tokens formula := by
    cases phrase with
    | product => exact derives
    | signed | measured | atom => exact .signed (signed (by decide))
    | sum => exact absurd tight (by decide)
  cases place with
  | sum =>
    cases phrase with
    | sum => exact derives
    | _ => exact .product (product (by decide))
  | product => exact product looser
  | signed => exact signed looser
  | measured => exact measured looser
  | atom =>
    cases phrase with
    | atom => exact derives
    | _ => exact absurd looser (by decide)

/-- What is written by the rule of a formula fits in any place once it is within it. -/
theorem Derives.within {formula : Expr} {tokens : List Token}
    (derives : Derives formula.phrase tokens formula) (place : Phrase) :
    Derives place (formula.within place tokens) formula := by
  unfold Expr.within
  split
  next weaker =>
    have sum : Derives .sum tokens formula := derives.loosen (Nat.zero_le _)
    exact (Derives.parentheses sum).loosen (by cases place <;> decide)
  next tight => exact derives.loosen (Nat.le_of_not_lt tight)

theorem Expr.written_derives (formula : Expr) :
    Derives formula.phrase formula.written formula := by
  induction formula with
  | number value => exact .number
  | symbol name => exact name.derives_token
  | neg inner ih => exact .neg (ih.within .signed)
  | add l r left right => exact .add (left.within .sum) (right.within .product)
  | sub l r left right => exact .sub (left.within .sum) (right.within .product)
  | mul l r left right => exact .mul (left.within .product) (right.within .signed)
  | div l r left right => exact .div (left.within .product) (right.within .signed)
  | scaled inner unit ih => exact unit.derives_token (ih.within .measured)

/-- A sum goes on to the end or to a parenthesis, so nothing there needs any. -/
@[simp] theorem Expr.within_sum (formula : Expr) (tokens : List Token) :
    formula.within .sum tokens = tokens := if_neg (Nat.not_lt_zero _)

theorem Expr.length_within_own {formula : Expr} {place : Phrase} {size : Nat}
    (own : formula.phrase = place) (written : formula.written.length ≤ size) :
    (formula.within place formula.written).length ≤ size := by
  subst own
  rwa [within, if_neg (Nat.lt_irrefl _)]

theorem Expr.length_within_loosened {formula : Expr} {weak strong : Phrase} {tokens : List Token}
    {size : Nat} (written : (formula.within strong tokens).length ≤ size)
    (looser : weak.strength ≤ strong.strength) : (formula.within weak tokens).length ≤ size := by
  unfold within at written ⊢
  split
  next weaker => rwa [if_pos (Nat.lt_of_lt_of_le weaker looser)] at written
  next tight =>
    split at written
    · simp only [List.length_append, List.length_cons] at written
      omega
    · exact written

theorem Expr.length_within_le (formula : Expr) (place : Phrase) (tokens : List Token) :
    (formula.within place tokens).length ≤ tokens.length + 2 := by
  unfold within
  split
  · exact Nat.le_of_eq (by simp)
  · exact Nat.le_add_right _ _

/-- However a formula is derived, it takes no fewer tokens than are written. -/
theorem Derives.length_written_le {phrase : Phrase} {tokens : List Token} {formula : Expr}
    (derives : Derives phrase tokens formula) :
    (formula.within phrase formula.written).length ≤ tokens.length := by
  induction derives with
  | add _ _ left right | sub _ _ left right | mul _ _ left right | div _ _ left right =>
    apply Expr.length_within_own rfl
    simp only [Expr.written, List.length_append, List.length_cons]
    omega
  | neg _ ih => exact Expr.length_within_own rfl (Nat.succ_le_succ ih)
  | pos _ ih => exact Nat.le_succ_of_le ih
  | charWidth _ ih | lineHeight _ ih | percent _ ih =>
    apply Expr.length_within_own rfl
    simp only [Expr.written, List.length_append, List.length_cons]
    omega
  | product _ ih | signed _ ih | measured _ ih | atom _ ih =>
    exact Expr.length_within_loosened ih (by decide)
  | number | center | half | extent | factor => exact Expr.length_within_own rfl (Nat.le_refl 1)
  | @parentheses ts t _ ih =>
    rw [Expr.within_sum] at ih
    have added := t.length_within_le .atom t.written
    simp only [List.length_append, List.length_cons, List.length_nil]
    omega

/-- What is written for a formula is read as that formula, on whatever bytes the tokens stand, and
whatever else is read as it has no fewer tokens. -/
theorem Expr.written_is_read (formula : Expr) (lexemes : List Lexeme) :
    (lexemes.map Lexeme.token = formula.written → ofLexing ⟨lexemes, none⟩ = .ok formula) ∧
      (ofLexing ⟨lexemes, none⟩ = .ok formula → formula.written.length ≤ lexemes.length) := by
  rw [ofLexing_eq_ok_iff, and_iff_right rfl]
  constructor
  · intro written
    rw [written]
    exact formula.written_derives.loosen (Nat.zero_le _)
  · intro derives
    have shorter := derives.length_written_le
    rwa [within_sum, List.length_map] at shorter

/-- A signed operand of two units, and a difference on the right. -/
theorem Expr.written_is_read_suffixes :
    let formula : Expr :=
      .sub (.scaled (.scaled (.neg (.symbol .half)) .percent) .charWidth)
        (.sub (.symbol .extent) (.symbol .factor))
    let lexemes := (Lexing.ofString "(-c)%w-(e-f)").lexemes
    lexemes.map Lexeme.token = formula.written ∧ ofLexing ⟨lexemes, none⟩ = .ok formula ∧
      formula.written.length ≤ lexemes.length := by
  intro formula lexemes
  have written : lexemes.map Lexeme.token = formula.written := by with_unfolding_all rfl
  have read := (written_is_read formula lexemes).1 written
  exact ⟨written, read, (written_is_read formula lexemes).2 read⟩

end Skinning.Coordinate
