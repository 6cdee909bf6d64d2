import Skinning.Color
import Skinning.Markup.Position
import Skinning.Proofs.Numerals
import Skinning.Registry.Declaration

/-! Hexadecimal literals: colors and marked parameters. They are meant to be digits, of which they
have the number. A sign in front of the digits is read all the same, a plus sign by colors and both
signs by parameters, and then a parameter may be negative. -/
namespace Skinning

open Text (Numeral Unsigned Signed Bounds isBase_sixteen)

/-! Colors. -/

namespace Color

/-- The text of a color after its marks. -/
def unmarked (text : String) : List Char :=
  (Text.trimChars text.toList).dropWhile (· == '#')

/-- A text is a color exactly if it is unmarked to eight characters at most that have a number by
the rule, which is then the color's; all others are refused as they stand. -/
structure ReadsBy (rule : List Char → Nat → Prop) (text : String) : Prop where
  decodes : ∀ c : Color, ofHex text = .ok c ↔
    rule (unmarked text) c.argb.toNat ∧ (unmarked text).length ≤ 8
  refuses : (∀ n, rule (unmarked text) n → 8 < (unmarked text).length) →
    ofHex text = .error (.hexColor text)

theorem unsigned_narrow {cs : List Char} {n : Nat} (unsigned : Unsigned 16 cs n) :
    cs ≠ [] ∧ (String.ofList cs).utf8ByteSize = cs.length := by
  have narrow : cs ≠ [] ∧ ∀ c ∈ cs, c.utf8Size = 1 := by
    rcases unsigned with numeral | ⟨digits, rfl, numeral⟩
    · exact ⟨numeral.nonempty, fun c member => (numeral.isPlain isBase_sixteen c member).size⟩
    · refine ⟨List.cons_ne_nil _ _, List.forall_mem_cons.mpr ⟨rfl, fun c member => ?_⟩⟩
      exact (numeral.isPlain isBase_sixteen c member).size
  refine ⟨narrow.1, ?_⟩
  rw [← Markup.byteSize_toList, String.toList_ofList, Markup.byteSize_of_narrow narrow.2]

theorem ofHex_eq_ok {text : String} {c : Color} : ofHex text = .ok c ↔
    unmarked text ≠ [] ∧ (String.ofList (unmarked text)).utf8ByteSize ≤ 8 ∧
      ∃ n, Text.readInteger .nat32 16 (String.ofList (unmarked text)) = .ok n ∧
        ⟨UInt32.ofNat n.toNat⟩ = c := by
  have bare : (Text.trimChars text.toList).dropWhile (· == '#') = unmarked text := rfl
  simp only [ofHex, bare]
  split
  next refused =>
    simp only [Bool.or_eq_true, List.isEmpty_iff, decide_eq_true_eq] at refused
    simp only [reduceCtorEq, false_iff, not_and]
    intro nonempty short
    exact absurd (refused.resolve_left nonempty) (Nat.not_lt.mpr short)
  next fits =>
    simp only [Bool.or_eq_true, List.isEmpty_iff, decide_eq_true_eq, not_or, Nat.not_lt] at fits
    split
    next value number => simp [fits, number]
    next fault number => simp [number]

theorem ofHex_eq_ok_iff {text : String} {c : Color} : ofHex text = .ok c ↔
    Unsigned 16 (unmarked text) c.argb.toNat ∧ (unmarked text).length ≤ 8 := by
  rw [ofHex_eq_ok]
  constructor
  · rintro ⟨-, short, _, number, rfl⟩
    obtain ⟨⟨n, rfl, unsigned⟩, -, small⟩ := (Text.readInteger_nat32 isBase_sixteen).mp number
    rw [String.toList_ofList] at unsigned
    have same : (UInt32.ofNat (n : Int).toNat).toNat = n := by
      simp only [Bounds.nat32] at small
      rw [Int.toNat_natCast, UInt32.toNat_ofNat_of_lt' (by simp only [UInt32.size]; omega)]
    rw [same]
    exact ⟨unsigned, (unsigned_narrow unsigned).2 ▸ short⟩
  · rintro ⟨unsigned, short⟩
    obtain ⟨nonempty, size⟩ := unsigned_narrow unsigned
    have small := c.argb.toNat_lt
    have holds : Bounds.nat32.Holds c.argb.toNat :=
      ⟨Int.natCast_nonneg _, by simp only [Bounds.nat32]; omega⟩
    refine ⟨nonempty, by rwa [size], c.argb.toNat, ?_, by simp⟩
    exact (Text.readInteger_nat32 isBase_sixteen).mpr ⟨⟨_, rfl, by rwa [String.toList_ofList]⟩, holds⟩

theorem ofHex_eq_error {text : String} {fault : LiteralFault} (fails : ofHex text = .error fault) :
    fault = .hexColor text := by
  simp only [ofHex] at fails
  split at fails
  · exact (Except.error.inj fails).symm
  · split at fails
    · cases fails
    · exact (Except.error.inj fails).symm

theorem ReadsBy.of_decodes {rule : List Char → Nat → Prop} {text : String}
    (decodes : ∀ c : Color, ofHex text = .ok c ↔
      rule (unmarked text) c.argb.toNat ∧ (unmarked text).length ≤ 8) : ReadsBy rule text := by
  refine ⟨decodes, fun long => ?_⟩
  cases read : ofHex text with
  | ok c =>
    obtain ⟨number, short⟩ := (decodes c).mp read
    exact absurd short (Nat.not_le.mpr (long _ number))
  | error fault => rw [ofHex_eq_error read]

theorem readsBy_unsigned (text : String) : ReadsBy (Unsigned 16) text :=
  .of_decodes fun _ => ofHex_eq_ok_iff

/-- Short enough with a plus sign in front. -/
def IsSigned (text : String) : Prop :=
  ∃ digits n, unmarked text = '+' :: digits ∧ digits.length < 8 ∧ Numeral 16 digits n

theorem readsBy_numeral_iff {text : String} : ReadsBy (Numeral 16) text ↔ ¬ IsSigned text := by
  constructor
  · rintro reads ⟨digits, n, signed, short, numeral⟩
    have small : n < 16 ^ 8 :=
      Nat.lt_of_lt_of_le (numeral.lt isBase_sixteen) (Nat.pow_le_pow_right (by decide) short.le)
    have number : (UInt32.ofNat n).toNat = n := UInt32.toNat_ofNat_of_lt' small
    have color : ofHex text = .ok ⟨UInt32.ofNat n⟩ := by
      refine ofHex_eq_ok_iff.mpr ⟨?_, by rw [signed]; exact short⟩
      rw [number, signed]
      exact .inr ⟨digits, rfl, numeral⟩
    obtain ⟨bare, -⟩ := (reads.decodes _).mp color
    rw [signed] at bare
    exact (bare.isPlain isBase_sixteen _ List.mem_cons_self).plus rfl
  · intro unsigned
    refine .of_decodes fun c => ofHex_eq_ok_iff.trans (and_congr_left fun short => ?_)
    refine ⟨?_, .inl⟩
    rintro (numeral | ⟨digits, signed, numeral⟩)
    · exact numeral
    · refine absurd ⟨digits, _, signed, ?_, numeral⟩ unsigned
      rw [signed] at short
      exact short

end Color

/-! Parameters. -/

namespace Parameter

/-- What a hexadecimal parameter begins with. -/
inductive Mark where
  | hash
  | zeroX
  deriving DecidableEq, Repr

namespace Mark

def text : Mark → String
  | hash => "#"
  | zeroX => "0x"

def fault : Mark → String → Text.IntegerFault → ParameterFault
  | hash => .hexColor
  | zeroX => .hexInteger

end Mark

/-- The values of a list, or the one value that is no list. -/
def elements (value : String) : List String :=
  if Text.contains value ',' then (Text.split ',' value).map Text.trim else [value]

/-- Behind a mark there is an integer of 64 bits exactly if there is one by the rule; any other
element is at fault, and the parameter that it is a part of is a bad one. -/
structure ReadsBy (rule : List Char → Int → Prop) (mark : Mark) (digits : String) : Prop where
  decodes : ∀ (reader : Reader) value faults,
    reader.scalar (mark.text ++ digits) = .ok (value, faults) ↔
      faults = [] ∧ ∃ n, value = .int n ∧ rule digits.toList n ∧ Bounds.int64.Holds n
  refuses : (∀ n, rule digits.toList n → ¬ Bounds.int64.Holds n) →
    ∀ (s : Store) (e : Element) name value notices, e.filled? "name" = some name →
      e.filled? "value" = some value → mark.text ++ digits ∈ elements value →
      ∃ fault, ((Declaration.readParameter s e).run.run notices).1 =
        .error (.badParameter name fault)

theorem scalar_marked (reader : Reader) (mark : Mark) (digits : String) :
    reader.scalar (mark.text ++ digits) = match Text.readInteger .int64 16 digits with
      | .ok value => .ok (.int value, [])
      | .error fault => .error (mark.fault (mark.text ++ digits) fault) := by
  cases mark with
  | hash =>
    have text : Text.after? "*" ("#" ++ digits) = none := by simp [Text.after?, List.isPrefixOf?]
    have hash : Text.after? "#" ("#" ++ digits) = some digits := by simp [Text.after?]
    simp only [Mark.text, Reader.scalar, text, hash]
    rfl
  | zeroX =>
    have text : Text.after? "*" ("0x" ++ digits) = none := by simp [Text.after?, List.isPrefixOf?]
    have hash : Text.after? "#" ("0x" ++ digits) = none := by simp [Text.after?, List.isPrefixOf?]
    have zeroX : Text.after? "0x" ("0x" ++ digits) = some digits := by simp [Text.after?]
    simp only [Mark.text, Reader.scalar, text, hash, zeroX]
    rfl

theorem readInteger_int64 {s : String} {n : Int} :
    Text.readInteger .int64 16 s = .ok n ↔ Signed 16 s.toList n ∧ Bounds.int64.Holds n :=
  Text.readInteger_signed isBase_sixteen (by decide) (by decide)

theorem scalar_marked_eq_ok_iff {reader : Reader} {mark : Mark} {digits : String}
    {value : Parameter} {faults : List Coordinate.Fault} :
    reader.scalar (mark.text ++ digits) = .ok (value, faults) ↔
      faults = [] ∧ ∃ n, value = .int n ∧ Signed 16 digits.toList n ∧ Bounds.int64.Holds n := by
  rw [scalar_marked]
  simp only [← readInteger_int64]
  cases Text.readInteger .int64 16 digits with
  | ok n => simp [and_comm, eq_comm]
  | error fault => simp

/-- A list is at fault if one of its values is. -/
theorem items_of_fault (reader : Reader) {items : List String} {item : String}
    (member : item ∈ items) {fault : ParameterFault}
    (fails : reader.scalar (Text.trim item) = .error fault) :
    ∃ first, (reader.items items).1 = .error first := by
  induction items with
  | nil => cases member
  | cons next rest ih =>
    rw [Reader.items]
    cases read : reader.scalar (Text.trim next) with
    | error first => exact ⟨first, rfl⟩
    | ok result =>
      have later : item ∈ rest := by
        rcases List.mem_cons.mp member with rfl | later
        · rw [read] at fails
          cases fails
        · exact later
      obtain ⟨first, stopped⟩ := ih later
      exact ⟨first, by simp [stopped, Except.map]⟩

theorem read_of_fault (reader : Reader) {value element : String} (member : element ∈ elements value)
    {fault : ParameterFault} (fails : reader.scalar element = .error fault) :
    ∃ first, (reader.read value).value = .error first := by
  rw [Reader.read]
  unfold elements at member
  split at member
  next list =>
    rw [if_pos list]
    obtain ⟨item, among, rfl⟩ := List.mem_map.mp member
    obtain ⟨first, stopped⟩ := items_of_fault reader among fails
    exact ⟨first, by simp [stopped, Except.map]⟩
  next single =>
    rw [if_neg single]
    obtain rfl := List.mem_singleton.mp member
    exact ⟨fault, by simp [fails]⟩

theorem readParameter_of_fault {s : Store} {e : Element} {name value : String}
    (named : e.filled? "name" = some name) (valued : e.filled? "value" = some value)
    {fault : ParameterFault} (fails : (s.parameterReader.read value).value = .error fault)
    (notices : Notices) : ((Declaration.readParameter s e).run.run notices).1 =
      .error (.badParameter name fault) := by
  simp only [Declaration.readParameter, Declaration.required, named, valued, Reading.ofExcept,
    pure_bind, fails]
  rfl

theorem ReadsBy.of_decodes {rule : List Char → Int → Prop} {mark : Mark} {digits : String}
    (decodes : ∀ (reader : Reader) value faults,
      reader.scalar (mark.text ++ digits) = .ok (value, faults) ↔
        faults = [] ∧ ∃ n, value = .int n ∧ rule digits.toList n ∧ Bounds.int64.Holds n) :
    ReadsBy rule mark digits := by
  refine ⟨decodes, fun none s e name value notices named valued member => ?_⟩
  cases read : s.parameterReader.scalar (mark.text ++ digits) with
  | ok result =>
    obtain ⟨-, n, -, number, holds⟩ := (decodes _ _ _).mp read
    exact absurd holds (none n number)
  | error fault =>
    obtain ⟨first, fails⟩ := read_of_fault _ member read
    exact ⟨first, readParameter_of_fault named valued fails notices⟩

theorem readsBy_signed (mark : Mark) (digits : String) : ReadsBy (Signed 16) mark digits :=
  .of_decodes fun _ _ _ => scalar_marked_eq_ok_iff

/-- Digits and nothing else, so that their number is not negative. -/
def Digital (cs : List Char) (n : Int) : Prop := ∃ m : Nat, n = m ∧ Numeral 16 cs m

/-- Within the bounds and with a sign in front. -/
def IsSigned (digits : String) : Prop :=
  ∃ (n : Nat) (rest : List Char), Numeral 16 rest n ∧
    (digits.toList = '+' :: rest ∧ Bounds.int64.Holds n ∨
      digits.toList = '-' :: rest ∧ Bounds.int64.Holds (-n))

theorem readsBy_digital_iff {mark : Mark} {digits : String} :
    ReadsBy Digital mark digits ↔ ¬ IsSigned digits := by
  constructor
  · rintro reads ⟨n, rest, numeral, signed⟩
    have number : ∃ m : Int, Signed 16 digits.toList m ∧ Bounds.int64.Holds m := by
      rcases signed with ⟨plus, holds⟩ | ⟨minus, holds⟩
      · exact ⟨n, .inl ⟨n, rfl, .inr ⟨rest, plus, numeral⟩⟩, holds⟩
      · exact ⟨-n, .inr ⟨n, rest, rfl, minus, numeral⟩, holds⟩
    obtain ⟨m, signedNumber, holds⟩ := number
    have read (reader : Reader) : reader.scalar (mark.text ++ digits) = .ok (.int m, []) :=
      scalar_marked_eq_ok_iff.mpr ⟨rfl, m, rfl, signedNumber, holds⟩
    obtain ⟨_, _, _, ⟨_, _, bare⟩, _⟩ := (reads.decodes ⟨1, fun _ => none⟩ _ _).mp (read _)
    rcases signed with ⟨plus, -⟩ | ⟨minus, -⟩
    · exact (bare.isPlain isBase_sixteen '+' (by simp [plus])).plus rfl
    · exact (bare.isPlain isBase_sixteen '-' (by simp [minus])).minus rfl
  · intro unsigned
    refine .of_decodes fun reader value faults => scalar_marked_eq_ok_iff.trans ?_
    refine and_congr_right fun _ => exists_congr fun n => and_congr_right fun _ => ?_
    refine and_congr_left fun holds => ⟨?_, fun ⟨m, same, numeral⟩ => .inl ⟨m, same, .inl numeral⟩⟩
    rintro (⟨m, rfl, numeral | ⟨rest, plus, numeral⟩⟩ | ⟨m, rest, rfl, minus, numeral⟩)
    · exact ⟨m, rfl, numeral⟩
    · exact absurd ⟨m, rest, numeral, .inl ⟨plus, holds⟩⟩ unsigned
    · exact absurd ⟨m, rest, numeral, .inr ⟨minus, holds⟩⟩ unsigned

end Parameter

/-- Colors are read as digits with a plus sign at most and marked parameters as digits with a sign
at most. Without a sign, and only then, they are read as the digits alone. -/
theorem hexLiteral_readsDigits_iff (text : String) (mark : Parameter.Mark) (digits : String) :
    (Color.ReadsBy (Numeral 16) text ↔ ¬ Color.IsSigned text) ∧
    Color.ReadsBy (Unsigned 16) text ∧
    (Parameter.ReadsBy Parameter.Digital mark digits ↔ ¬ Parameter.IsSigned digits) ∧
    Parameter.ReadsBy (Signed 16) mark digits :=
  ⟨Color.readsBy_numeral_iff, Color.readsBy_unsigned text, Parameter.readsBy_digital_iff,
    Parameter.readsBy_signed mark digits⟩

theorem signedLiterals_not_readsDigits :
    ¬ Color.ReadsBy (Numeral 16) "+ff" ∧ ¬ Parameter.ReadsBy Parameter.Digital .hash "-ff" := by
  have digits : Numeral 16 ['f', 'f'] 255 :=
    Text.numeral_of_all isBase_sixteen (by decide) (by decide)
  refine ⟨fun reads => Color.readsBy_numeral_iff.mp reads ?_,
    fun reads => Parameter.readsBy_digital_iff.mp reads ?_⟩
  · exact ⟨['f', 'f'], 255, by decide, by decide, digits⟩
  · exact ⟨255, ['f', 'f'], digits, .inr ⟨by decide, by decide⟩⟩

end Skinning
