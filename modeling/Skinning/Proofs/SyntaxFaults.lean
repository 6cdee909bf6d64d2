import Mathlib.Order.Bounds.Basic
import Skinning.Proofs.Grammar

/-! Where a text that is no formula goes wrong. Tokens begin a formula if more tokens after them
complete one. The reader gets past a token exactly if the tokens up to it begin a formula, so it
points at the first one that cannot stand where it does; if there is none, at the character that
starts no token; and else at the end. -/
namespace Skinning.Coordinate

def Begins (tokens : List Token) : Prop :=
  ∃ rest formula, Derives .sum (tokens ++ rest) formula

theorem Begins.of_append {xs ys : List Token} (begins : Begins (xs ++ ys)) : Begins xs := by
  obtain ⟨rest, formula, derives⟩ := begins
  exact ⟨ys ++ rest, formula, by rwa [← List.append_assoc]⟩

theorem Begins.take {lexemes : List Lexeme} (begins : Begins (lexemes.map Lexeme.token)) (n : Nat) :
    Begins ((lexemes.take n).map Lexeme.token) := by
  rw [← List.take_append_drop n lexemes, List.map_append] at begins
  exact begins.of_append

/-- When the awaited phrase has been read, what is pending can be finished: operators take it as
their right operand, and parentheses are closed. -/
theorem Awaits.begins {phrase : Phrase} {pending : List Pending} {before own : List Token}
    {formula : Expr} (awaits : Awaits phrase pending before) (derives : Derives phrase own formula) :
    Begins (before ++ own) := by
  induction awaits generalizing own formula with
  | start => exact ⟨[], formula, by rwa [List.nil_append, List.append_nil]⟩
  | opening _ ih =>
    have closed := ih (.measured (.atom (.parentheses derives)))
    rw [← List.append_assoc] at closed
    simpa using closed.of_append
  | sum _ ih => exact ih (.product derives)
  | add _ left ih => simpa using ih (.add left derives)
  | sub _ left ih => simpa using ih (.sub left derives)
  | product _ ih => exact ih (.signed derives)
  | mul _ left ih => simpa using ih (.mul left derives)
  | div _ left ih => simpa using ih (.div left derives)
  | neg _ ih => simpa using ih (.neg derives)
  | pos _ ih => simpa using ih (.pos derives)

theorem Progress.Holds.begins {tokens : List Token} {progress : Progress}
    (holds : progress.Holds tokens) : Begins tokens := by
  cases progress with
  | operand pending => exact (Awaits.begins holds (.measured (.atom .half))).of_append
  | operator value pending =>
    obtain ⟨before, own, rfl, awaits, derives⟩ := holds
    exact awaits.begins (.measured derives)

/-- The reader gets past tokens exactly if they begin a formula. -/
theorem begins_iff_run {tokens : List Token} :
    Begins tokens ↔ (Progress.operand []).run tokens ≠ none := by
  rw [Option.ne_none_iff_exists']
  constructor
  · rintro ⟨rest, formula, derives⟩
    obtain ⟨final, run, -⟩ := Option.bind_eq_some_iff.mp (run_iff_derives.mpr derives)
    rw [Progress.run_append] at run
    obtain ⟨progress, run, -⟩ := Option.bind_eq_some_iff.mp run
    exact ⟨progress, run⟩
  · rintro ⟨progress, run⟩
    have initial : (Progress.operand []).Holds [] := .product (.sum .start)
    exact (initial.run run).begins

/-- The byte after the last lexeme. -/
def lastStop (lexemes : List Lexeme) : Nat := (lexemes.getLast?.map Lexeme.stop).getD 0

/-- The place and the kind of fault that a lexing has as a formula. -/
inductive Lexing.PointsAt (lexing : Lexing) : SyntaxFault → Prop where
  | unexpected {i : Nat} {lexeme : Lexeme} (expected : Expected) :
      IsLeast {i | ¬ Begins ((lexing.lexemes.take (i + 1)).map Lexeme.token)} i →
      lexing.lexemes[i]? = some lexeme → PointsAt lexing (.unexpected lexeme expected)
  | unreadable {offset : Nat} :
      (∀ i, Begins ((lexing.lexemes.take (i + 1)).map Lexeme.token)) →
      lexing.fault? = some offset → PointsAt lexing (.unreadable offset)
  | incomplete (expected : Expected) :
      (∀ i, Begins ((lexing.lexemes.take (i + 1)).map Lexeme.token)) →
      lexing.fault? = none → PointsAt lexing (.incomplete (lastStop lexing.lexemes) expected)

/-- Some lexemes have been read, and a fault is met in the others or behind them. -/
theorem Progress.read_pointsAt {lexing : Lexing} {before rest : List Lexeme} {progress : Progress}
    {fault : SyntaxFault} (all : lexing.lexemes = before ++ rest)
    (run : (Progress.operand []).run (before.map Lexeme.token) = some progress)
    (failed : progress.read lexing.fault? (lastStop before) rest = .error fault) :
    lexing.PointsAt fault := by
  induction rest generalizing before progress with
  | nil =>
    rw [List.append_nil] at all
    subst all
    have begins : Begins (lexing.lexemes.map Lexeme.token) := begins_iff_run.mpr (by simp [run])
    unfold read at failed
    split at failed
    next offset unread =>
      obtain rfl := Except.error.inj failed
      exact .unreadable (fun i => begins.take (i + 1)) unread
    next ended =>
      split at failed
      · contradiction
      · obtain rfl := Except.error.inj failed
        exact .incomplete _ (fun i => begins.take (i + 1)) ended
  | cons lexeme rest ih =>
    have past : (Progress.operand []).run ((before ++ [lexeme]).map Lexeme.token) =
        progress.step? lexeme.token := by
      rw [List.map_append, run_append, run]
      exact Option.bind_fun_some _
    unfold read at failed
    split at failed
    next next step =>
      exact ih (by simp [all]) (past.trans step) (by simpa [lastStop] using failed)
    next step =>
      obtain rfl := Except.error.inj failed
      have first : lexing.lexemes.take (before.length + 1) = before ++ [lexeme] := by
        rw [all, List.take_length_add_append, List.take_succ_cons, List.take_zero]
      refine .unexpected (i := before.length) _ ⟨fun begins => ?_, fun j refused => ?_⟩ (by simp [all])
      · rw [first] at begins
        exact begins_iff_run.mp begins (past.trans step)
      · by_contra earlier
        have begins : Begins (before.map Lexeme.token) := begins_iff_run.mpr (by simp [run])
        refine refused ?_
        rw [all, List.take_append_of_le_length (by omega)]
        exact begins.take (j + 1)

/-- A text that is not read as a formula is at fault at its first token that does not begin a formula
together with those before it; else where a character starts no token; else at its end. A text with
such a character is never a formula. -/
theorem Expr.ofString_pointsAt :
    (∀ (input : String) (fault : Fault), ofString input = .error fault →
      ∃ what, fault = .malformed input what ∧ (Lexing.ofString input).PointsAt what) ∧
    ∀ input : String, (Lexing.ofString input).fault? ≠ none →
      ∀ formula, ofString input ≠ .ok formula := by
  constructor
  · intro input fault failed
    unfold ofString at failed
    split at failed
    · contradiction
    next what malformed =>
      obtain rfl := Except.error.inj failed
      have all := (List.nil_append (Lexing.ofString input).lexemes).symm
      exact ⟨what, rfl, Progress.read_pointsAt all rfl malformed⟩
  · intro input unreadable formula read
    exact unreadable (ofLexing_eq_ok_iff.mp (ofString_eq_ok_iff.mp read)).1

/-- The second operand comes before the character that starts no token. -/
theorem Expr.ofString_pointsAt_operand :
    let fault := SyntaxFault.unexpected ⟨2, .half, 3⟩ (.operator false)
    ofString "c c $" = .error (.malformed "c c $" fault) ∧
      (Lexing.ofString "c c $").PointsAt fault ∧ (Lexing.ofString "c c $").fault? ≠ none ∧
      ∀ formula, ofString "c c $" ≠ .ok formula := by
  intro fault
  have failed : ofString "c c $" = .error (.malformed "c c $" fault) := by with_unfolding_all rfl
  have unreadable : (Lexing.ofString "c c $").fault? ≠ none := by decide +kernel
  obtain ⟨what, same, points⟩ := ofString_pointsAt.1 _ _ failed
  obtain ⟨-, rfl⟩ := Fault.malformed.inj same
  exact ⟨failed, points, unreadable, ofString_pointsAt.2 _ unreadable⟩

end Skinning.Coordinate
