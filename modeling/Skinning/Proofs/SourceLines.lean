import Skinning.Markup.Position

/-! The lines of a source. The line of a place is one more than the number of newline bytes before
it. A cursor that goes on from place to place counts each of them once. -/
namespace Skinning.Markup

def newline : UInt8 := 10

def sourceBytes (source : String) : List UInt8 := source.toUTF8.data.toList

/-- How many newlines stand before an offset. -/
def newlinesBefore (source : String) (offset : Nat) : Nat :=
  ((sourceBytes source).take offset).count newline

theorem sourceBytes_eq (source : String) :
    sourceBytes source = source.toList.flatMap String.utf8EncodeChar := by
  have bytes (cs : List Char) :
      (String.ofList cs).toUTF8.data.toList = cs.flatMap String.utf8EncodeChar := by
    rw [String.toUTF8_eq_toByteArray, String.toByteArray_ofList, List.utf8Encode,
      List.data_toByteArray, List.toList_toArray]
  rw [sourceBytes, ← bytes, String.ofList_toList]

/-- No byte of another character is a newline. -/
theorem newline_notMem {c : Char} (other : c ≠ '\n') : newline ∉ String.utf8EncodeChar c := by
  have number : c.val.toNat ≠ 10 := fun same => other (Char.ext (UInt32.toNat_inj.mp same))
  intro member
  simp only [String.utf8EncodeChar] at member
  repeat' split at member
  all_goals
    simp only [List.mem_cons, List.not_mem_nil, or_false, newline, ← UInt8.toNat_inj,
      UInt8.toNat_ofNat', UInt8.reduceToNat] at member
    omega

/-- The newlines among the first bytes of a text, counted as a position is. -/
theorem Position.advance_line (p : Position) (bytes : Nat) (cs : List Char) :
    (p.advance bytes cs).line =
      p.line + ((cs.flatMap String.utf8EncodeChar).take bytes).count newline := by
  induction cs generalizing p bytes with
  | nil => simp [advance]
  | cons c rest ih =>
    have size := String.length_utf8EncodeChar c
    simp only [advance, List.flatMap_cons, List.take_append, List.count_append, size]
    by_cases isNewline : c = '\n'
    · subst isNewline
      have encoded : String.utf8EncodeChar '\n' = [newline] := rfl
      cases bytes with
      | zero => simp
      | succ bytes =>
        rw [if_neg (Nat.succ_ne_zero bytes), if_neg (by simp [Char.utf8Size])]
        simp [ih, encoded, Char.utf8Size, Nat.add_assoc]
    · have none (k : Nat) : ((String.utf8EncodeChar c).take k).count newline = 0 :=
        List.count_eq_zero.mpr fun member => newline_notMem isNewline (List.mem_of_mem_take member)
      split
      next start => simp [start]
      · split
        next inside => simp [none, Nat.sub_eq_zero_of_le (Nat.le_of_lt inside)]
        · simp [ih, none]

theorem Position.ofOffset_line (source : String) (offset : Nat) :
    (Position.ofOffset source offset).line = 1 + newlinesBefore source offset := by
  rw [ofOffset, advance_line, newlinesBefore, sourceBytes_eq]

theorem newlinesBefore_mono (source : String) {first second : Nat} (le : first ≤ second) :
    newlinesBefore source first ≤ newlinesBefore source second :=
  (List.take_sublist_take_left le).count_le newline

/-- The newlines up to a place are those up to an earlier one and those between the two. -/
theorem newlinesBefore_split (source : String) {first second : Nat} (le : first ≤ second) :
    newlinesBefore source second = newlinesBefore source first +
      (((sourceBytes source).take second).drop first).count newline := by
  have earlier : ((sourceBytes source).take second).take first =
      (sourceBytes source).take first := by
    rw [List.take_take, Nat.min_eq_left le]
  rw [newlinesBefore, newlinesBefore, ← earlier, ← List.count_append, List.take_append_drop]

/-- The last bytes before an offset. -/
def lastBytes (source : String) (count offset : Nat) : List UInt8 :=
  ((sourceBytes source).take offset).drop (offset - count)

/-- Some bytes before a place the line is the same, unless there is a newline among them. -/
theorem ofOffset_line_eq_iff (source : String) (count offset : Nat) :
    (Position.ofOffset source (offset - count)).line = (Position.ofOffset source offset).line ↔
      newline ∉ lastBytes source count offset := by
  rw [Position.ofOffset_line, Position.ofOffset_line,
    newlinesBefore_split source (Nat.sub_le offset count), ← List.count_eq_zero, lastBytes]
  omega

/-- An offset past the end stands for the end. -/
theorem newlinesBefore_min (source : String) (offset : Nat) :
    newlinesBefore source (min offset (sourceBytes source).length) =
      newlinesBefore source offset := by
  rw [newlinesBefore, newlinesBefore, ← List.take_take, List.take_length]

/-- A count of lines that goes on from the place it was asked for last. -/
structure LineCursor where
  offset : Nat
  line : Nat
  deriving DecidableEq, Repr

namespace LineCursor

def initial : LineCursor := ⟨0, 1⟩

/-- Goes on to an offset, or to the end. It never goes back. -/
def seek (source : String) (c : LineCursor) (offset : Nat) : LineCursor :=
  let bytes := sourceBytes source
  let offset := min offset bytes.length
  if c.offset < offset then
    ⟨offset, c.line + ((bytes.take offset).drop c.offset).count newline⟩
  else c

/-- The lines of some places, for which the cursor is asked one after the other. -/
def lines (source : String) (c : LineCursor) : List Nat → List Nat
  | [] => []
  | offset :: rest => (c.seek source offset).line :: (c.seek source offset).lines source rest

/-- A cursor that stands in the line that it says. -/
def Stands (source : String) (c : LineCursor) : Prop :=
  c.offset ≤ (sourceBytes source).length ∧ c.line = 1 + newlinesBefore source c.offset

theorem stands_initial (source : String) : initial.Stands source := ⟨Nat.zero_le _, rfl⟩

theorem Stands.seek {source : String} {c : LineCursor} (stands : c.Stands source) {offset : Nat}
    (le : c.offset ≤ offset) : (c.seek source offset).Stands source ∧
      (c.seek source offset).offset ≤ offset ∧
      (c.seek source offset).line = 1 + newlinesBefore source offset := by
  obtain ⟨inside, line⟩ := stands
  rw [← newlinesBefore_min source offset]
  simp only [LineCursor.seek]
  have reached : min offset (sourceBytes source).length ≤ offset := Nat.min_le_left _ _
  have ended : min offset (sourceBytes source).length ≤ (sourceBytes source).length :=
    Nat.min_le_right _ _
  have passed : c.offset ≤ min offset (sourceBytes source).length := Nat.le_min.mpr ⟨le, inside⟩
  generalize min offset (sourceBytes source).length = place at *
  split
  next onward =>
    have counted : c.line + (((sourceBytes source).take place).drop c.offset).count newline =
        1 + newlinesBefore source place := by
      rw [line, newlinesBefore_split source passed, Nat.add_assoc]
    exact ⟨⟨ended, counted⟩, reached, counted⟩
  next there =>
    obtain rfl : c.offset = place := Nat.le_antisymm passed (Nat.le_of_not_lt there)
    exact ⟨⟨inside, line⟩, le, line⟩

/-- Asked for places one after the other, a cursor finds each line as it is counted from the
beginning. -/
theorem Stands.lines {source : String} {c : LineCursor} (stands : c.Stands source)
    {offsets : List Nat} (after : ∀ offset ∈ offsets, c.offset ≤ offset)
    (sorted : offsets.Pairwise (· ≤ ·)) :
    c.lines source offsets = offsets.map fun offset => (Position.ofOffset source offset).line := by
  induction offsets generalizing c with
  | nil => rfl
  | cons offset rest ih =>
    obtain ⟨next, reached, line⟩ := stands.seek (after offset List.mem_cons_self)
    obtain ⟨later, sorted⟩ := List.pairwise_cons.mp sorted
    rw [LineCursor.lines, List.map_cons, Position.ofOffset_line, line,
      ih next (fun other member => Nat.le_trans reached (later other member)) sorted]

end LineCursor
end Skinning.Markup
