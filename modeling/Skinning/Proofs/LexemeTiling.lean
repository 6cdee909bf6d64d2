import Mathlib.Order.Bounds.Basic
import Skinning.Markup.Position
import Skinning.Proofs.TokenTexts

/-! The lexemes of a text and the blanks between them tile it up to its end, or up to the first
place that neither a token nor a blank can take. Each lexeme is the longest token at its place. These
conditions determine the lexemes and the place of the fault. -/
namespace Skinning.Coordinate

open Markup (byteSize byteSize_append byteSize_of_narrow byteSize_toList)

/-- A piece of a text, on the bytes from `start` up to and without `stop`. -/
def Stands (s : String) (start stop : Nat) (piece : List Char) : Prop :=
  ∃ before after, s.toList = before ++ piece ++ after ∧ byteSize before = start ∧
    byteSize (before ++ piece) = stop

def BlankAt (s : String) (offset : Nat) : Prop :=
  ∃ c ∈ [' ', '\t', '\r', '\n'], Stands s offset (offset + 1) [c]

def TokenAt (s : String) (offset : Nat) : Prop :=
  ∃ (token : Token) (text : List Char) (stop : Nat), token.Spells text ∧ Stands s offset stop text

/-- The token is the one that its bytes spell, and no token that begins there is longer. -/
structure Lexeme.IsLongest (lexeme : Lexeme) (s : String) : Prop where
  spelled : ∃ text, lexeme.token.Spells text ∧ Stands s lexeme.start lexeme.stop text
  longest : ∀ (other : Token) text stop, other.Spells text → Stands s lexeme.start stop text →
    stop < lexeme.stop ∨ stop = lexeme.stop ∧ other = lexeme.token

namespace Lexing

/-- Some lexeme stands on a byte. -/
def Covers (lexing : Lexing) (i : Nat) : Prop :=
  ∃ lexeme ∈ lexing.lexemes, lexeme.start ≤ i ∧ i < lexeme.stop

/-- Where the scan of a text ends. -/
def reach (lexing : Lexing) (s : String) : Nat := lexing.fault?.getD s.utf8ByteSize

structure Tiles (lexing : Lexing) (s : String) : Prop where
  increasing : ∀ lexeme ∈ lexing.lexemes, lexeme.start < lexeme.stop ∧ lexeme.stop ≤ lexing.reach s
  disjoint : lexing.lexemes.Pairwise fun first second => first.stop ≤ second.start
  longest : ∀ lexeme ∈ lexing.lexemes, lexeme.IsLongest s
  blank : ∀ i < lexing.reach s, ¬ lexing.Covers i → BlankAt s i
  complete : lexing.fault? = none ↔ ∀ i < s.utf8ByteSize, lexing.Covers i ∨ BlankAt s i
  fault : ∀ offset, lexing.fault? = some offset → IsLeast
    {i | i < s.utf8ByteSize ∧ ¬ lexing.Covers i ∧ ¬ BlankAt s i ∧ ¬ TokenAt s i} offset

end Lexing

/-! What is left of a text from a byte on. -/

def Remains (s : String) (offset : Nat) (cs : List Char) : Prop :=
  ∃ before, s.toList = before ++ cs ∧ byteSize before = offset

theorem eq_nil_of_byteSize {cs : List Char} (none : byteSize cs = 0) : cs = [] := by
  cases cs with
  | nil => rfl
  | cons c rest =>
    have := c.utf8Size_pos
    simp only [byteSize] at none
    omega

theorem byteSize_of_plain {text : List Char} (plain : text.all isPlain) :
    byteSize text = text.length := by
  refine byteSize_of_narrow fun c member => ?_
  have single : isSpace c = false ∧ c.utf8Size = 1 := by
    simpa [isPlain] using List.all_eq_true.mp plain c member
  exact single.2

theorem Token.Spells.byteSize {token : Token} {text : List Char} (spelled : token.Spells text) :
    byteSize text = text.length := byteSize_of_plain spelled.plain.2

theorem mem_blanks_iff {c : Char} : c ∈ [' ', '\t', '\r', '\n'] ↔ isSpace c := by
  simp [isSpace, or_assoc]

theorem utf8Size_of_isSpace {c : Char} (space : isSpace c) : c.utf8Size = 1 := by
  obtain rfl | rfl | rfl | rfl : c = ' ' ∨ c = '\t' ∨ c = '\r' ∨ c = '\n' := by
    simpa using mem_blanks_iff.mpr space
  all_goals rfl

namespace Remains

variable {s : String} {offset : Nat} {cs piece : List Char}

theorem all (s : String) : Remains s 0 s.toList := ⟨[], rfl, rfl⟩

theorem size (remains : Remains s offset cs) : offset + byteSize cs = s.utf8ByteSize := by
  obtain ⟨before, split, rfl⟩ := remains
  rw [← byteSize_append, ← split, byteSize_toList]

theorem unique {ds : List Char} (first : Remains s offset cs) (second : Remains s offset ds) :
    cs = ds := by
  obtain ⟨before, split, rfl⟩ := first
  obtain ⟨before', split', sizes⟩ := second
  rw [split] at split'
  rcases List.append_eq_append_iff.mp split' with ⟨more, rfl, rfl⟩ | ⟨more, rfl, rfl⟩
  all_goals
    rw [byteSize_append] at sizes
    have empty : byteSize more = 0 := by omega
    obtain rfl := eq_nil_of_byteSize empty
    rfl

theorem after (remains : Remains s offset (piece ++ cs)) :
    Remains s (offset + byteSize piece) cs := by
  obtain ⟨before, split, rfl⟩ := remains
  exact ⟨before ++ piece, by rw [split, List.append_assoc], byteSize_append ..⟩

theorem stands_iff (remains : Remains s offset cs) {stop : Nat} :
    Stands s offset stop piece ↔ piece <+: cs ∧ stop = offset + byteSize piece := by
  constructor
  · rintro ⟨before, after, split, start, rfl⟩
    have same := remains.unique ⟨before, by rw [split, List.append_assoc], start⟩
    exact ⟨⟨after, same.symm⟩, by rw [byteSize_append, start]⟩
  · rintro ⟨⟨after, rfl⟩, rfl⟩
    obtain ⟨before, split, rfl⟩ := remains
    exact ⟨before, after, by rw [split, List.append_assoc], rfl, byteSize_append ..⟩

theorem blankAt_iff (remains : Remains s offset cs) :
    BlankAt s offset ↔ ∃ c rest, cs = c :: rest ∧ isSpace c := by
  simp only [BlankAt, remains.stands_iff, mem_blanks_iff]
  constructor
  · rintro ⟨c, space, ⟨rest, rfl⟩, -⟩
    exact ⟨c, rest, rfl, space⟩
  · rintro ⟨c, rest, rfl, space⟩
    exact ⟨c, space, ⟨rest, rfl⟩, by rw [byteSize, byteSize, utf8Size_of_isSpace space]⟩

theorem tokenAt_iff (remains : Remains s offset cs) :
    TokenAt s offset ↔ Token.longest? cs ≠ none := by
  simp only [TokenAt, remains.stands_iff]
  constructor
  · rintro ⟨token, text, stop, spelled, leads, -⟩
    exact spelled.longest?_ne_none leads
  · intro found
    obtain ⟨⟨token, n⟩, found⟩ := Option.ne_none_iff_exists'.mp found
    obtain ⟨text, -, longest⟩ := isLongest_of_longest? found
    exact ⟨token, text, _, longest.spelled, longest.leads, rfl⟩

theorem isLongest_iff (remains : Remains s offset cs) {token : Token} {stop : Nat} :
    Lexeme.IsLongest ⟨offset, token, stop⟩ s ↔
      ∃ n, Token.longest? cs = some (token, n) ∧ stop = offset + n := by
  constructor
  · rintro ⟨⟨text, spelled, stands⟩, longest⟩
    obtain ⟨leads, rfl⟩ := remains.stands_iff.mp stands
    refine ⟨text.length, longest?_eq_some_iff.mpr ⟨text, rfl, leads, spelled, ?_⟩, ?_⟩
    · intro other piece spelledOther leadsOther
      have compared := longest other piece _ spelledOther (remains.stands_iff.mpr ⟨leadsOther, rfl⟩)
      rw [spelled.byteSize, spelledOther.byteSize] at compared
      refine compared.imp (by dsimp only; omega) fun ⟨sizes, same⟩ => ⟨?_, same⟩
      have sizes : piece.length = text.length := by dsimp only at sizes; omega
      exact (List.prefix_of_prefix_length_le leadsOther leads sizes.le).eq_of_length sizes
    · rw [spelled.byteSize]
  · rintro ⟨n, found, rfl⟩
    obtain ⟨text, rfl, leads, spelled, longest⟩ := isLongest_of_longest? found
    refine ⟨⟨text, spelled, remains.stands_iff.mpr ⟨leads, by rw [spelled.byteSize]⟩⟩, ?_⟩
    intro other piece stop spelledOther stands
    obtain ⟨leadsOther, rfl⟩ := remains.stands_iff.mp stands
    rw [spelledOther.byteSize]
    rcases longest other piece spelledOther leadsOther with shorter | ⟨rfl, same⟩
    · exact .inl (Nat.add_lt_add_left shorter offset)
    · exact .inr ⟨rfl, same⟩

end Remains

theorem BlankAt.not_tokenAt {s : String} {offset : Nat} (blank : BlankAt s offset) :
    ¬ TokenAt s offset := by
  rintro ⟨token, text, stop, spelled, stands⟩
  obtain ⟨c, space, before, after, split, start, -⟩ := blank
  have remains : Remains s offset (c :: after) := ⟨before, by simp [split], start⟩
  obtain ⟨nonempty, plain⟩ := spelled.plain
  obtain ⟨leads, -⟩ := remains.stands_iff.mp stands
  cases text with
  | nil => contradiction
  | cons d more =>
    obtain rfl := (List.cons_prefix_cons.mp leads).1
    simp [isPlain, mem_blanks_iff.mp space] at plain

namespace Lexeme.IsLongest

variable {s : String} {lexeme other : Lexeme}

theorem tokenAt (longest : lexeme.IsLongest s) : TokenAt s lexeme.start := by
  obtain ⟨⟨text, spelled, stands⟩, -⟩ := longest
  exact ⟨lexeme.token, text, lexeme.stop, spelled, stands⟩

theorem bounds (longest : lexeme.IsLongest s) :
    lexeme.start < lexeme.stop ∧ lexeme.stop ≤ s.utf8ByteSize := by
  obtain ⟨⟨text, spelled, before, after, split, start, stop⟩, -⟩ := longest
  have positive : 0 < byteSize text := by
    rw [spelled.byteSize]
    exact List.length_pos_iff.mpr spelled.plain.1
  rw [byteSize_append] at stop
  rw [← byteSize_toList, split, byteSize_append, byteSize_append]
  omega

theorem unique (first : lexeme.IsLongest s) (second : other.IsLongest s)
    (same : other.start = lexeme.start) : other = lexeme := by
  obtain ⟨text, spelled, stands⟩ := first.spelled
  obtain ⟨piece, spelledOther, standsOther⟩ := second.spelled
  have longer := first.longest other.token piece other.stop spelledOther (same ▸ standsOther)
  have shorter := second.longest lexeme.token text lexeme.stop spelled (same ▸ stands)
  rcases longer with less | ⟨stop, token⟩
  · omega
  · cases lexeme
    cases other
    simp_all

end Lexeme.IsLongest

namespace Lexing

variable {s : String} {offset : Nat} {lexing : Lexing}

/-- What is left of a text from a byte on is tiled. -/
structure TilesFrom (lexing : Lexing) (s : String) (offset : Nat) : Prop where
  later : ∀ lexeme ∈ lexing.lexemes, offset ≤ lexeme.start
  inside : ∀ lexeme ∈ lexing.lexemes, lexeme.stop ≤ lexing.reach s
  disjoint : lexing.lexemes.Pairwise fun first second => first.stop ≤ second.start
  longest : ∀ lexeme ∈ lexing.lexemes, lexeme.IsLongest s
  blank : ∀ i, offset ≤ i → i < lexing.reach s → ¬ lexing.Covers i → BlankAt s i
  fault : ∀ i, lexing.fault? = some i →
    offset ≤ i ∧ i < s.utf8ByteSize ∧ ¬ BlankAt s i ∧ ¬ TokenAt s i

theorem TilesFrom.not_covers (tiles : lexing.TilesFrom s offset) (token : ¬ TokenAt s offset) :
    ¬ lexing.Covers offset := by
  rintro ⟨lexeme, member, start, -⟩
  have start : lexeme.start = offset := start.antisymm (tiles.later lexeme member)
  exact token (start ▸ (tiles.longest lexeme member).tokenAt)

theorem TilesFrom.le_reach (tiles : lexing.TilesFrom s offset) (bound : offset ≤ s.utf8ByteSize) :
    offset ≤ lexing.reach s := by
  cases fault : lexing.fault? with
  | none => simpa [reach, fault] using bound
  | some i => simpa [reach, fault] using (tiles.fault i fault).1

/-- The scan goes on past a place where a token stands. -/
theorem TilesFrom.lt_reach (tiles : lexing.TilesFrom s offset) (bound : offset < s.utf8ByteSize)
    (token : TokenAt s offset) : offset < lexing.reach s := by
  cases fault : lexing.fault? with
  | none => simpa [reach, fault] using bound
  | some i =>
    obtain ⟨later, -, -, nothing⟩ := tiles.fault i fault
    have other : offset ≠ i := fun same => nothing (same ▸ token)
    simpa [reach, fault] using later.lt_of_ne other

/-- Where nothing stands, the scan ends. -/
theorem tilesFrom_iff_of_nothing (bound : offset ≤ s.utf8ByteSize) (blank : ¬ BlankAt s offset)
    (token : ¬ TokenAt s offset) :
    lexing.TilesFrom s offset ↔
      lexing = ⟨[], if offset < s.utf8ByteSize then some offset else none⟩ := by
  constructor
  · intro tiles
    have ended : lexing.reach s ≤ offset := by
      by_contra further
      exact blank (tiles.blank offset le_rfl (by omega) (tiles.not_covers token))
    have empty : lexing.lexemes = [] := by
      refine List.eq_nil_iff_forall_not_mem.mpr fun lexeme member => ?_
      have later := tiles.later lexeme member
      have inside := tiles.inside lexeme member
      have bounds := (tiles.longest lexeme member).bounds
      omega
    obtain ⟨lexemes, fault?⟩ := lexing
    obtain rfl : lexemes = [] := empty
    cases fault? with
    | none =>
      have ended : s.utf8ByteSize ≤ offset := ended
      rw [if_neg (Nat.not_lt.mpr ended)]
    | some i =>
      obtain ⟨later, inside, -⟩ := tiles.fault i rfl
      obtain rfl : i = offset := ended.antisymm later
      rw [if_pos inside]
  · rintro rfl
    refine ⟨by simp, by simp, .nil, by simp, ?_, ?_⟩
    · intro i later inside
      unfold reach at inside
      split at inside <;> simp at inside <;> omega
    · intro i fault
      obtain ⟨inside, rfl⟩ : offset < s.utf8ByteSize ∧ offset = i := by simpa using fault
      exact ⟨le_rfl, inside, blank, token⟩

/-- A blank belongs to no lexeme. -/
theorem tilesFrom_iff_of_blank (blank : BlankAt s offset) :
    lexing.TilesFrom s offset ↔ lexing.TilesFrom s (offset + 1) := by
  constructor
  · intro tiles
    refine ⟨fun lexeme member => ?_, tiles.inside, tiles.disjoint, tiles.longest,
      fun i later => tiles.blank i (by omega), fun i fault => ?_⟩
    · have later := tiles.later lexeme member
      have other : lexeme.start ≠ offset := fun same =>
        blank.not_tokenAt (same ▸ (tiles.longest lexeme member).tokenAt)
      omega
    · obtain ⟨later, inside, notBlank, notToken⟩ := tiles.fault i fault
      have other : i ≠ offset := fun same => notBlank (same ▸ blank)
      exact ⟨by omega, inside, notBlank, notToken⟩
  · intro tiles
    refine ⟨fun lexeme member => ?_, tiles.inside, tiles.disjoint, tiles.longest,
      fun i later inside uncovered => ?_, fun i fault => ?_⟩
    · exact (Nat.le_succ _).trans (tiles.later lexeme member)
    · rcases later.eq_or_lt with rfl | later
      · exact blank
      · exact tiles.blank i later inside uncovered
    · exact (tiles.fault i fault).imp_left (Nat.le_succ _).trans

variable {lexeme : Lexeme} {others : List Lexeme} {fault? : Option Nat}

/-- Where a token stands, its lexeme is the next one. -/
theorem TilesFrom.begins (tiles : lexing.TilesFrom s lexeme.start) (longest : lexeme.IsLongest s) :
    ∃ rest, lexing.lexemes = lexeme :: rest := by
  have bounds := longest.bounds
  have inside := tiles.lt_reach (by omega) longest.tokenAt
  obtain ⟨first, member, start, -⟩ : lexing.Covers lexeme.start := by
    by_contra uncovered
    exact (tiles.blank _ le_rfl inside uncovered).not_tokenAt longest.tokenAt
  obtain rfl := longest.unique (tiles.longest first member)
    (start.antisymm (tiles.later first member))
  cases all : lexing.lexemes with
  | nil => simp [all] at member
  | cons head rest =>
    rcases List.mem_cons.mp (all ▸ member) with rfl | behind
    · exact ⟨rest, rfl⟩
    · -- The head would have to end before the first place where anything stands.
      have among : head ∈ lexing.lexemes := by simp [all]
      have later := tiles.later head among
      have proper := (tiles.longest head among).bounds
      have apart := (List.pairwise_cons.mp (all ▸ tiles.disjoint)).1 first behind
      omega

theorem TilesFrom.tail (tiles : (Lexing.mk (lexeme :: others) fault?).TilesFrom s offset) :
    (Lexing.mk others fault?).TilesFrom s lexeme.stop := by
  obtain ⟨apart, disjoint⟩ := List.pairwise_cons.mp tiles.disjoint
  obtain ⟨fits, inside⟩ := List.forall_mem_cons.mp tiles.inside
  obtain ⟨longest, longests⟩ := List.forall_mem_cons.mp tiles.longest
  have later := tiles.later lexeme List.mem_cons_self
  have proper := longest.bounds
  refine ⟨apart, inside, disjoint, longests, fun i beyond within uncovered => ?_,
    fun i fault => ⟨?_, (tiles.fault i fault).2⟩⟩
  · refine tiles.blank i (by omega) within fun ⟨other, among, low, high⟩ => ?_
    rcases List.mem_cons.mp among with rfl | among
    · omega
    · exact uncovered ⟨other, among, low, high⟩
  · have ends : (Lexing.mk (lexeme :: others) fault?).reach s = i := by simp_all [reach]
    omega

theorem TilesFrom.cons (tiles : (Lexing.mk others fault?).TilesFrom s lexeme.stop)
    (longest : lexeme.IsLongest s) :
    (Lexing.mk (lexeme :: others) fault?).TilesFrom s lexeme.start := by
  have bounds := longest.bounds
  have further := tiles.le_reach bounds.2
  refine ⟨?_, List.forall_mem_cons.mpr ⟨further, tiles.inside⟩,
    .cons tiles.later tiles.disjoint, List.forall_mem_cons.mpr ⟨longest, tiles.longest⟩,
    fun i later inside uncovered => ?_, fun i fault => (tiles.fault i fault).imp_left (by omega)⟩
  · exact List.forall_mem_cons.mpr ⟨le_rfl, fun other among => by
      have := tiles.later other among
      omega⟩
  · have beyond : lexeme.stop ≤ i := by
      by_contra within
      exact uncovered ⟨lexeme, List.mem_cons_self, later, by omega⟩
    refine tiles.blank i beyond inside fun ⟨other, among, covers⟩ => ?_
    exact uncovered ⟨other, List.mem_cons_of_mem _ among, covers⟩

theorem tilesFrom_iff_scan {cs : List Char} (remains : Remains s offset cs) :
    lexing.TilesFrom s offset ↔ lexing = scan offset cs := by
  fun_induction scan offset cs generalizing lexing with
  | case1 offset =>
    have ended : offset = s.utf8ByteSize := remains.size
    rw [tilesFrom_iff_of_nothing ended.le (by simp [remains.blankAt_iff])
      (by simp [remains.tokenAt_iff]; rfl), if_neg ended.ge.not_gt]
  | case2 offset c rest space ih =>
    have blank : BlankAt s offset := remains.blankAt_iff.mpr ⟨c, rest, rfl, space⟩
    have after : Remains s (offset + byteSize [c]) rest := remains.after
    rw [byteSize, byteSize, utf8Size_of_isSpace space] at after
    rw [tilesFrom_iff_of_blank blank, ih after]
  | case3 offset c rest visible none =>
    have size := remains.size
    have positive := c.utf8Size_pos
    rw [byteSize] at size
    rw [tilesFrom_iff_of_nothing (by omega) (by simpa [remains.blankAt_iff] using visible)
      (by simpa [remains.tokenAt_iff] using none), if_pos (by omega)]
  | case4 offset c rest visible token n found tail =>
    rename_i ih
    have longest : Lexeme.IsLongest ⟨offset, token, offset + n⟩ s :=
      remains.isLongest_iff.mpr ⟨n, found, rfl⟩
    have after : Remains s (offset + n) ((c :: rest).drop n) := by
      obtain ⟨text, rfl, ⟨more, split⟩, spelled, -⟩ := isLongest_of_longest? found
      rw [← split] at remains ⊢
      rw [List.drop_left, ← spelled.byteSize]
      exact remains.after
    constructor
    · intro tiles
      obtain ⟨lexemes, fault?⟩ := lexing
      obtain ⟨others, rfl⟩ := tiles.begins longest
      have scanned : Lexing.mk others fault? = tail := (ih after).mp tiles.tail
      rw [← scanned]
    · rintro rfl
      exact ((ih after).mpr rfl).cons longest

theorem ofString_tilesFrom (s : String) : (ofString s).TilesFrom s 0 :=
  (tilesFrom_iff_scan (.all s)).mpr rfl

end Lexing

/-- The scan of a text tiles it, and nothing else does. -/
theorem Lexing.tiles_iff (lexing : Lexing) (s : String) : lexing.Tiles s ↔ lexing = ofString s := by
  rw [ofString, ← tilesFrom_iff_scan (.all s)]
  constructor
  · intro tiles
    refine ⟨fun _ _ => Nat.zero_le _, fun lexeme member => (tiles.increasing lexeme member).2,
      tiles.disjoint, tiles.longest, fun i _ => tiles.blank i, fun i fault => ?_⟩
    obtain ⟨⟨inside, -, blank, token⟩, -⟩ := tiles.fault i fault
    exact ⟨Nat.zero_le _, inside, blank, token⟩
  · intro tiles
    have ends {i : Nat} (fault : lexing.fault? = some i) : lexing.reach s = i := by
      rw [reach, fault, Option.getD_some]
    have uncovered {i : Nat} (fault : lexing.fault? = some i) : ¬ lexing.Covers i := by
      rintro ⟨lexeme, member, -, after⟩
      have inside := ends fault ▸ tiles.inside lexeme member
      omega
    refine ⟨fun lexeme member => ?_, tiles.disjoint, tiles.longest,
      fun i => tiles.blank i (Nat.zero_le _), ⟨fun complete i inside => ?_, fun covered => ?_⟩,
      fun i fault => ?_⟩
    · exact ⟨(tiles.longest lexeme member).bounds.1, tiles.inside lexeme member⟩
    · have within : i < lexing.reach s := by rwa [reach, complete]
      exact Classical.or_iff_not_imp_left.mpr (tiles.blank i (Nat.zero_le _) within)
    · by_contra stopped
      obtain ⟨i, fault⟩ := Option.ne_none_iff_exists'.mp stopped
      obtain ⟨-, inside, blank, -⟩ := tiles.fault i fault
      exact (covered i inside).elim (uncovered fault) blank
    · obtain ⟨-, inside, blank, token⟩ := tiles.fault i fault
      refine ⟨⟨inside, uncovered fault, blank, token⟩, fun j ⟨_, bare, notBlank, _⟩ => ?_⟩
      by_contra before
      exact notBlank (tiles.blank j (Nat.zero_le _) (by rw [ends fault]; omega) bare)

end Skinning.Coordinate
