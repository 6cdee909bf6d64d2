import Skinning.Markup.Event
import Skinning.Markup.Position
import Skinning.Table

/-! How characters and tags are written. A written text is read back as it was, whatever its
characters are, and a written tag with its name and its attributes in order. -/
namespace Skinning.Markup

/-- The characters that mark tags, attributes and escapes have names; all others stand for
themselves. -/
def escapeChar : Char → List Char
  | '&' => "&amp;".toList
  | '<' => "&lt;".toList
  | '>' => "&gt;".toList
  | '"' => "&quot;".toList
  | '\'' => "&apos;".toList
  | c => [c]

def escape (cs : List Char) : List Char := cs.flatMap escapeChar

theorem escapeChar_of_unmarked {c : Char} (unmarked : c ∉ ['&', '<', '>', '"', '\'']) :
    escapeChar c = [c] := by
  simp only [List.mem_cons, List.not_mem_nil, or_false, not_or] at unmarked
  obtain ⟨amp, lt, gt, quot, apos⟩ := unmarked
  unfold escapeChar
  split <;> trivial

theorem plain_of_mem_escapeChar {c d : Char} (member : d ∈ escapeChar c) :
    d ≠ '<' ∧ d ≠ '>' ∧ d ≠ '"' := by
  by_cases marked : c ∈ ['&', '<', '>', '"', '\'']
  · have plain : (escapeChar c).all (fun d => d != '<' && d != '>' && d != '"') = true := by
      simp only [List.mem_cons, List.not_mem_nil, or_false] at marked
      rcases marked with rfl | rfl | rfl | rfl | rfl <;> rfl
    simpa [and_assoc] using List.all_eq_true.mp plain d member
  · rw [escapeChar_of_unmarked marked, List.mem_singleton] at member
    subst member
    simp only [List.mem_cons, List.not_mem_nil, or_false, not_or] at marked
    exact ⟨marked.2.1, marked.2.2.1, marked.2.2.2.1⟩

theorem plain_of_mem_escape {cs : List Char} {d : Char} (member : d ∈ escape cs) :
    d ≠ '<' ∧ d ≠ '>' ∧ d ≠ '"' := by
  obtain ⟨c, _, member⟩ := List.mem_flatMap.mp member
  exact plain_of_mem_escapeChar member

theorem unescapeFrom_escapeChar (size offset : Nat) (c : Char) (rest : List Char) :
    ∃ next, unescapeFrom size offset none (escapeChar c ++ rest) =
      (unescapeFrom size next none rest).map (c :: ·) := by
  by_cases marked : c ∈ ['&', '<', '>', '"', '\'']
  · simp only [List.mem_cons, List.not_mem_nil, or_false] at marked
    rcases marked with rfl | rfl | rfl | rfl | rfl <;> exact ⟨_, rfl⟩
  · rw [escapeChar_of_unmarked marked]
    have plain : c ≠ '&' := fun same => marked (by simp [same])
    exact ⟨offset + c.utf8Size, by simp [unescapeFrom, plain]⟩

theorem unescapeFrom_escape (size offset : Nat) (cs : List Char) :
    unescapeFrom size offset none (escape cs) = .ok cs := by
  induction cs generalizing offset with
  | nil => rfl
  | cons c rest ih =>
    obtain ⟨next, step⟩ := unescapeFrom_escapeChar size offset c (escape rest)
    rw [escape, List.flatMap_cons, ← escape, step, ih]
    rfl

theorem unescape_escape (cs : List Char) : unescape (escape cs) = .ok (String.ofList cs) := by
  rw [unescape, unescapeFrom_escape]
  rfl

/-! Names. Every character beyond ASCII counts as a letter. -/

def isNameStart (c : Char) : Bool := c.isAlpha || c == '_' || 128 ≤ c.toNat

def isNameChar (c : Char) : Bool := isNameStart c || c.isDigit || c == '-' || c == '.' || c == ':'

def isName (name : String) : Bool :=
  match name.toList with
  | [] => false
  | c :: rest => isNameStart c && rest.all isNameChar

/-- What ends a name or opens something else. -/
def delimiters : List Char := ['<', '>', '=', '"', '\'', '/', '!', '?', ' ', '\r', '\n', '\t']

theorem not_delimiter {c : Char} (named : isNameChar c) : c ∉ delimiters := by
  intro member
  simp only [delimiters, List.mem_cons, List.not_mem_nil, or_false] at member
  rcases member with rfl | rfl | rfl | rfl | rfl | rfl | rfl | rfl | rfl | rfl | rfl | rfl <;>
    exact absurd named (by decide)

theorem exists_of_isName {name : String} (named : isName name) :
    ∃ c rest, name.toList = c :: rest ∧ ∀ d ∈ c :: rest, isNameChar d := by
  unfold isName at named
  cases spelled : name.toList with
  | nil => simp [spelled] at named
  | cons c rest =>
    simp only [spelled, Bool.and_eq_true, List.all_eq_true] at named
    refine ⟨c, rest, rfl, fun d member => ?_⟩
    rcases List.mem_cons.mp member with rfl | member
    · simp [isNameChar, named.1]
    · exact named.2 d member

theorem isNameChar_of_mem {name : String} (named : isName name) {c : Char}
    (member : c ∈ name.toList) : isNameChar c := by
  obtain ⟨first, rest, spelled, chars⟩ := exists_of_isName named
  exact chars c (spelled ▸ member)

/-! Tags. -/

def writeAttribute : String × String → List Char
  | (key, value) => ' ' :: key.toList ++ '=' :: '"' :: escape value.toList ++ ['"']

/-- What stands in a start tag before its `>` or `/>`. -/
def writeTag (tag : Tag) : List Char :=
  tag.name.toList ++ tag.attributes.flatMap writeAttribute

/-- A tag that can be written: names, none twice. -/
structure Tag.IsWritable (tag : Tag) : Prop where
  named : isName tag.name
  keysNamed : ∀ key ∈ tag.attributes.map Prod.fst, isName key
  distinct : (tag.attributes.map Prod.fst).Nodup

theorem not_isBlank {c : Char} (named : isNameChar c) : isBlank c = false := by
  have others := not_delimiter named
  simp only [delimiters, List.mem_cons, List.not_mem_nil, or_false, not_or] at others
  simp [isBlank, others]

namespace TagReader

variable (seen : List (String × Nat)) (attributes : List (String × String))

theorem read_cons {r s : TagReader} {offset : Nat} {c : Char} (step : r.step offset c = .ok s)
    (rest : List Char) : r.read offset (c :: rest) = s.read (offset + c.utf8Size) rest := by
  rw [read, step]
  rfl

theorem read_key {cs : List Char} (named : ∀ c ∈ cs, isNameChar c) (start : Nat)
    (key : List Char) (offset : Nat) (rest : List Char) :
    (⟨.key start key, seen, attributes⟩ : TagReader).read offset (cs ++ rest) =
      (⟨.key start (cs.reverse ++ key), seen, attributes⟩ : TagReader).read
        (offset + byteSize cs) rest := by
  induction cs generalizing key offset with
  | nil => rfl
  | cons c cs ih =>
    have char := named c List.mem_cons_self
    have plain : c ≠ '=' := fun same => not_delimiter char (by simp [same, delimiters])
    have step : (⟨.key start key, seen, attributes⟩ : TagReader).step offset c =
        .ok ⟨.key start (c :: key), seen, attributes⟩ := by
      simp [TagReader.step, plain, not_isBlank char]
    rw [List.cons_append, read_cons step]
    simp only [byteSize, List.reverse_cons, List.append_assoc, ← Nat.add_assoc]
    exact ih (fun d member => named d (List.mem_cons_of_mem c member)) (c :: key) _

theorem read_value {cs : List Char} (unquoted : ∀ c ∈ cs, c ≠ '"') (key : String)
    (value : List Char) (offset : Nat) (rest : List Char) :
    (⟨.value key '"' value, seen, attributes⟩ : TagReader).read offset (cs ++ rest) =
      (⟨.value key '"' (cs.reverse ++ value), seen, attributes⟩ : TagReader).read
        (offset + byteSize cs) rest := by
  induction cs generalizing value offset with
  | nil => rfl
  | cons c cs ih =>
    have plain := unquoted c List.mem_cons_self
    have step : (⟨.value key '"' value, seen, attributes⟩ : TagReader).step offset c =
        .ok ⟨.value key '"' (c :: value), seen, attributes⟩ := by
      simp [TagReader.step, plain]
    rw [List.cons_append, read_cons step]
    simp only [byteSize, List.reverse_cons, List.append_assoc, ← Nat.add_assoc]
    exact ih (fun d member => unquoted d (List.mem_cons_of_mem c member)) (c :: value) _

theorem read_attribute {key : String} (named : isName key) (fresh : key ∉ seen.map Prod.fst)
    (value : String) (offset : Nat) : ∃ place next, ∀ rest,
      (⟨.between, seen, attributes⟩ : TagReader).read offset (writeAttribute (key, value) ++ rest) =
        (⟨.between, seen ++ [(key, place)], attributes ++ [(key, value)]⟩ : TagReader).read
          next rest := by
  obtain ⟨first, others, spelled, chars⟩ := exists_of_isName named
  have othersNamed := fun c member => chars c (List.mem_cons_of_mem first member)
  have unquoted : ∀ c ∈ escape value.toList, c ≠ '"' := fun c member =>
    (plain_of_mem_escape member).2.2
  let inside := offset + 1 + first.utf8Size + byteSize others + 1 + 1
  refine ⟨offset + 1, inside + byteSize (escape value.toList) + 1, fun rest => ?_⟩
  have blank : (⟨.between, seen, attributes⟩ : TagReader).step offset ' ' =
      .ok ⟨.between, seen, attributes⟩ := rfl
  have start : (⟨.between, seen, attributes⟩ : TagReader).step (offset + 1) first =
      .ok ⟨.key (offset + 1) [first], seen, attributes⟩ := by
    simp [TagReader.step, not_isBlank (chars first List.mem_cons_self)]
  have equals : (⟨.key (offset + 1) (others.reverse ++ [first]), seen, attributes⟩ :
      TagReader).step (offset + 1 + first.utf8Size + byteSize others) '=' =
      .ok ⟨.beforeValue key, seen ++ [(key, offset + 1)], attributes⟩ := by
    simp [TagReader.step, endKey, Table.lookup_of_fresh fresh, ← spelled]
  have opens : (⟨.beforeValue key, seen ++ [(key, offset + 1)], attributes⟩ : TagReader).step
      (offset + 1 + first.utf8Size + byteSize others + 1) '"' =
      .ok ⟨.value key '"' [], seen ++ [(key, offset + 1)], attributes⟩ := rfl
  have closes : (⟨.value key '"' ((escape value.toList).reverse ++ []),
      seen ++ [(key, offset + 1)], attributes⟩ : TagReader).step
        (inside + byteSize (escape value.toList)) '"' =
      .ok ⟨.between, seen ++ [(key, offset + 1)], attributes ++ [(key, value)]⟩ := by
    simp [TagReader.step, endValue, unescape_escape]
  simp only [writeAttribute, spelled, List.cons_append, List.append_assoc, List.nil_append]
  refine (read_cons blank _).trans ((read_cons start _).trans ?_)
  rw [read_key _ _ othersNamed]
  refine (read_cons equals _).trans ((read_cons opens _).trans ?_)
  rw [read_value _ _ unquoted]
  exact read_cons closes rest

theorem read_attributes {written : List (String × String)}
    (named : ∀ key ∈ written.map Prod.fst, isName key)
    (distinct : (seen.map Prod.fst ++ written.map Prod.fst).Nodup) (offset : Nat) :
    (⟨.between, seen, attributes⟩ : TagReader).read offset (written.flatMap writeAttribute) =
      .ok (attributes ++ written) := by
  induction written generalizing seen attributes offset with
  | nil => simp [read, finish]
  | cons pair rest ih =>
    obtain ⟨key, value⟩ := pair
    have fresh : key ∉ seen.map Prod.fst := fun member =>
      (List.nodup_append.mp distinct).2.2 key member key List.mem_cons_self rfl
    obtain ⟨place, next, step⟩ :=
      read_attribute seen attributes (named key List.mem_cons_self) fresh value offset
    rw [List.flatMap_cons, step, ih]
    · simp
    · exact fun other member => named other (List.mem_cons_of_mem key member)
    · simpa using distinct

end TagReader

/-- Reading a tag gives back what was written. -/
theorem Tag.read_writeTag {tag : Tag} (writable : tag.IsWritable) :
    Tag.read (writeTag tag) = .ok tag := by
  have inName : ∀ c ∈ tag.name.toList, (!isBlank c) = true := fun c member => by
    simp [not_isBlank (isNameChar_of_mem writable.named member)]
  have atBlank : ∀ written : List (String × String),
      (written.flatMap writeAttribute).takeWhile (fun c => !isBlank c) = [] ∧
        (written.flatMap writeAttribute).dropWhile (fun c => !isBlank c) =
          written.flatMap writeAttribute := fun written => by
    cases written with
    | nil => simp
    | cons pair rest => simp [writeAttribute, isBlank]
  have name : (writeTag tag).takeWhile (fun c => !isBlank c) = tag.name.toList := by
    rw [writeTag, List.takeWhile_append_of_pos inName, (atBlank _).1, List.append_nil]
  have rest : (writeTag tag).dropWhile (fun c => !isBlank c) =
      tag.attributes.flatMap writeAttribute := by
    rw [writeTag, List.dropWhile_append_of_pos inName, (atBlank _).2]
  rw [Tag.read]
  simp only [name, rest, TagReader.initial]
  rw [TagReader.read_attributes [] [] writable.keysNamed (by simpa using writable.distinct)]
  simp [Except.map]

end Skinning.Markup
