import Skinning.Proofs.FileSuffixes
import Skinning.Proofs.Numerals
import Skinning.Proofs.QuotedTexts
import Skinning.Toml.Reader

/-! Sections as they are written. The document of some sections with bare keys is read as their
statements, one after the other, whatever texts stand in them. -/
namespace Skinning.Toml

/-! Integers. -/

namespace Scalar

/-- Only zero is written with a zero in front. -/
theorem head?_toDigits {n : Nat} (positive : 0 < n) : (Nat.toDigits 10 n).head? ≠ some '0' := by
  induction n using Nat.strongRecOn with
  | ind n ih =>
    rw [Nat.toDigits_eq_if (by decide)]
    split
    next small =>
      have chars : ∀ n < 10, 0 < n → n.digitChar ≠ '0' := by decide
      simpa using chars n small positive
    next large =>
      rw [List.head?_append_of_ne_nil _ Nat.toDigits_ne_nil]
      exact ih (n / 10) (by omega) (by omega)

theorem digits?_of_all {isDigit : Char → Bool} {cs : List Char} (nonempty : cs ≠ [])
    (digital : ∀ c ∈ cs, isDigit c) (uncut : '_' ∉ cs) : digits? isDigit cs = some cs := by
  have whole : Text.splitChars '_' cs = [cs] := by
    rw [Text.splitChars_eq_splitOn, List.splitOn_eq_singleton]
    exact uncut
  simpa [digits?, whole, nonempty] using digital

theorem decimalDigits?_toDigits (n : Nat) :
    decimalDigits? (Nat.toDigits 10 n) = some (Nat.toDigits 10 n) := by
  have digital : ∀ c ∈ Nat.toDigits 10 n, c.isDigit := fun _ => Text.isDigit_of_mem_toDigits
  have uncut : '_' ∉ Nat.toDigits 10 n := fun member => absurd (digital _ member) (by decide)
  have leading : (Nat.toDigits 10 n == ['0'] || (Nat.toDigits 10 n).head? != some '0') = true := by
    rcases Nat.eq_zero_or_pos n with rfl | positive
    · rfl
    · simp [head?_toDigits positive]
  rw [decimalDigits?, digits?_of_all Nat.toDigits_ne_nil digital uncut, Option.filter_some,
    if_pos leading]

theorem sign_toDigits (n : Nat) :
    Decimal.sign (Nat.toDigits 10 n) = (false, Nat.toDigits 10 n) := by
  have digital : ∀ c ∈ Nat.toDigits 10 n, c.isDigit := fun _ => Text.isDigit_of_mem_toDigits
  unfold Decimal.sign
  split
  next written => exact absurd (digital '-' (by simp [written])) (by decide)
  next written => exact absurd (digital '+' (by simp [written])) (by decide)
  next => rfl

theorem inBounds?_of_holds {value : Int} (holds : Text.Bounds.int64.Holds value) :
    inBounds? value = some value := if_pos holds

theorem integer?_toDigits {n : Nat} (holds : Text.Bounds.int64.Holds n) :
    integer? (Nat.toDigits 10 n) = some (n : Int) := by
  have digital : ∀ c ∈ Nat.toDigits 10 n, c.isDigit := fun _ => Text.isDigit_of_mem_toDigits
  unfold integer?
  split
  next written => exact absurd (digital 'x' (by simp [written])) (by decide)
  next written => exact absurd (digital 'o' (by simp [written])) (by decide)
  next written => exact absurd (digital 'b' (by simp [written])) (by decide)
  next =>
    have value : digitsValue 10 (Nat.toDigits 10 n) = n := Text.valueOn_toDigits n
    simp [sign_toDigits, decimalDigits?_toDigits, value, inBounds?_of_holds holds]

theorem integer?_minus {n : Nat} (holds : Text.Bounds.int64.Holds (-n)) :
    integer? ('-' :: Nat.toDigits 10 n) = some (-n : Int) := by
  have value : digitsValue 10 (Nat.toDigits 10 n) = n := Text.valueOn_toDigits n
  simp [integer?, Decimal.sign, decimalDigits?_toDigits, value, inBounds?_of_holds holds]

theorem integer?_toString {value : Int} (holds : Text.Bounds.int64.Holds value) :
    integer? (toString value).toList = some value := by
  rw [Text.toList_int]
  split
  next positive =>
    obtain ⟨n, rfl⟩ := Int.eq_ofNat_of_zero_le positive
    exact integer?_toDigits holds
  next negative =>
    obtain ⟨n, rfl⟩ : ∃ n : Nat, value = -n := ⟨(-value).toNat, by omega⟩
    simpa using integer?_minus holds

/-- A written integer is no truth value, float or moment. -/
theorem read?_toString {value : Int} (holds : Text.Bounds.int64.Holds value) :
    read? (toString value).toList = some (.integer value) := by
  have found := integer?_toString holds
  -- The words that are tried before integers are none.
  have other (word : String) (none : integer? word.toList = none) :
      (toString value).toList ≠ word.toList := by
    rintro same
    rw [same, none] at found
    cases found
  have affirmative := other "true" (by decide)
  have negative := other "false" (by decide)
  simp only [read?, beq_iff_eq, affirmative, negative, if_false, found]

end Scalar

/-! Words and marks. -/

namespace Mode

variable {c : Char} {cs marks : List Char} {tokens : List Token}

theorem mark?_wordChar (word : isWordChar c) : mark? c = none := by
  unfold mark?
  split
  all_goals first | rfl | exact absurd word (by decide)

theorem start_wordChar (word : isWordChar c) : start c = some (.word [c], []) := by
  have other (mark : Char) (marks : isWordChar mark = false) : c ≠ mark := by
    rintro rfl
    rw [marks] at word
    cases word
  have comment := other '#' (by decide)
  have double := other '"' (by decide)
  have single := other '\'' (by decide)
  simp [start, mark?_wordChar word, comment, double, single, word]

theorem start_mark {token : Token} (marks : mark? c = some token) :
    start c = some (.between, [token]) := by
  simp [start, marks]

/-- A mark is a token by itself. -/
theorem leads_marks (marked : marks.map mark? = tokens.map some) :
    Leads .between marks tokens .between := by
  induction marks generalizing tokens with
  | nil =>
    obtain rfl := List.map_eq_nil_iff.mp marked.symm
    exact .nil _
  | cons c rest ih =>
    obtain ⟨token, others, rfl, first, marked⟩ := List.map_eq_cons_iff.mp marked.symm
    have step : Mode.between.step c = some (.between, [token]) := start_mark first.symm
    exact .cons step (ih marked.symm)

theorem leads_wordChars (read : List Char) (words : ∀ c ∈ cs, isWordChar c) :
    Leads (.word read) cs [] (.word (cs.reverse ++ read)) := by
  induction cs generalizing read with
  | nil => exact .nil _
  | cons c rest ih =>
    obtain ⟨word, words⟩ := List.forall_mem_cons.mp words
    have step : (Mode.word read).step c = some (.word (c :: read), []) := by
      simp [Mode.step, word]
    simpa using Leads.silent step (ih (c :: read) words)

/-- A word ends before a mark. -/
theorem leads_word (nonempty : cs ≠ []) (words : ∀ c ∈ cs, isWordChar c) (ends : marks ≠ [])
    (marked : marks.map mark? = tokens.map some) :
    Leads .between (cs ++ marks) (.word cs :: tokens) .between := by
  obtain ⟨first, rest, rfl⟩ := List.exists_cons_of_ne_nil nonempty
  obtain ⟨last, others, rfl⟩ := List.exists_cons_of_ne_nil ends
  obtain ⟨token, more, rfl, found, marked⟩ := List.map_eq_cons_iff.mp marked.symm
  obtain ⟨word, words⟩ := List.forall_mem_cons.mp words
  have unword : isWordChar last = false := by
    cases isWord : isWordChar last with
    | false => rfl
    | true =>
      rw [mark?_wordChar isWord] at found
      cases found
  have step : (Mode.word (rest.reverse ++ [first])).step last =
      some (.between, [.word (first :: rest), token]) := by
    simp [Mode.step, unword, startAfter, start_mark found.symm]
  exact .silent (start_wordChar word)
    ((leads_wordChars [first] words).append (.cons step (leads_marks marked.symm)))

end Mode

/-- The tokens make up the groups, whatever comes before or after them. -/
def Forms (tokens : List Token) (groups : List Group) : Prop :=
  ∀ read opened rest, Group.collect read opened (tokens ++ rest) =
    Group.collect (groups.reverse ++ read) opened rest

theorem Forms.append {tokens more : List Token} {groups others : List Group}
    (first : Forms tokens groups) (second : Forms more others) :
    Forms (tokens ++ more) (groups ++ others) := by
  intro read opened rest
  rw [List.append_assoc, first, second, List.reverse_append, List.append_assoc]

theorem forms_nil : Forms [] [] := fun _ _ _ => rfl

theorem forms_newline : Forms [.newline] [.leaf .newline] := by
  intro read opened rest
  simp [Group.collect]

/-! What is written, and what it is made of. -/

/-- A key that needs no marks. -/
structure IsBare (key : String) : Prop where
  nonempty : key ≠ ""
  chars : key.toList.all isKeyChar

instance (key : String) : Decidable (IsBare key) :=
  decidable_of_iff (key ≠ "" ∧ key.toList.all isKeyChar)
    ⟨fun ⟨nonempty, chars⟩ => ⟨nonempty, chars⟩, fun bare => ⟨bare.nonempty, bare.chars⟩⟩

def Plain.IsWritable : Plain → Prop
  | .integer value => Text.Bounds.int64.Holds value
  | .text _ | .nothing => True

def Heading.IsWritable : Heading → Prop
  | .none => True
  | .table key | .tables key => IsBare key

structure Section.IsWritable (s : Section) : Prop where
  heading : s.heading.IsWritable
  pairs : ∀ pair ∈ s.pairs, IsBare pair.1 ∧ pair.2.IsWritable

theorem IsBare.words {key : String} (bare : IsBare key) : ∀ c ∈ key.toList, isWordChar c := by
  intro c member
  have chars := List.all_eq_true.mp bare.chars c member
  simp only [isKeyChar, Bool.or_eq_true] at chars
  rcases chars with (alphanum | dash) | underscore
  · simp [isWordChar, alphanum]
  · simp [isWordChar, dash]
  · simp [isWordChar, underscore]

theorem IsBare.leads {key : String} {marks : List Char} {tokens : List Token} (bare : IsBare key)
    (ends : marks ≠ []) (marked : marks.map mark? = tokens.map some) :
    Mode.Leads .between (key.toList ++ marks) (.word key.toList :: tokens) .between :=
  Mode.leads_word (by simpa using bare.nonempty) bare.words ends marked

def Heading.statements : Heading → List Statement
  | .none => []
  | .table key => [.table [key]]
  | .tables key => [.tables [key]]

theorem Section.statements_eq (s : Section) : s.statements =
    s.heading.statements ++ s.pairs.map fun (key, value) => .pair [key] value.node := by
  obtain ⟨heading, pairs⟩ := s
  cases heading <;> rfl

namespace Plain

def tokens : Plain → List Token
  | .text s => [.text s (Style.ofText s.toList).isLong]
  | .integer value => [.word (toString value).toList]
  | .nothing => [.opening, .closing]

def group : Plain → Group
  | .text s => .leaf (.text s (Style.ofText s.toList).isLong)
  | .integer value => .leaf (.word (toString value).toList)
  | .nothing => .brackets []

variable {plain : Plain}

theorem isWordChar_of_mem_toString {value : Int} {c : Char} (member : c ∈ (toString value).toList) :
    isWordChar c := by
  rcases Text.isDigit_of_mem_int member with digit | rfl
  · simp [isWordChar, Char.isAlphanum, digit]
  · decide

theorem leads (plain : Plain) :
    Mode.Leads .between (plain.written ++ ['\n']) (plain.tokens ++ [.newline]) .between := by
  cases plain with
  | text s => exact leads_quote s
  | integer value =>
    have words : ∀ c ∈ (toString value).toList, isWordChar c := fun _ => isWordChar_of_mem_toString
    exact Mode.leads_word (Text.int_ne_nil value) words (by decide) rfl
  | nothing => exact Mode.leads_marks rfl

theorem forms_tokens (plain : Plain) : Forms plain.tokens [plain.group] := by
  intro read opened rest
  cases plain <;> simp [tokens, group, Group.collect]

theorem value?_group (isWritable : plain.IsWritable) :
    value? depthLimit [.leaf .space, plain.group] = some plain.node := by
  cases plain with
  | text s => rfl
  | integer value =>
    have unquoted : value? depthLimit [.leaf .space, (integer value).group] =
        (wordChars? [(integer value).group]).bind fun cs =>
          (Scalar.read? cs).bind fun found => some (.scalar found) := rfl
    have words : wordChars? [(integer value).group] = some (toString value).toList := by
      simp only [group, wordChars?, Option.map_some, List.append_nil]
    rw [unquoted, words, Option.bind_some, Scalar.read?_toString isWritable]
    rfl
  | nothing => rfl

theorem return_notMem_written (plain : Plain) : '\r' ∉ plain.written := by
  cases plain with
  | text s => exact return_notMem_quote s
  | integer value =>
    exact fun member => absurd (isWordChar_of_mem_toString member) (by decide)
  | nothing => decide

end Plain

/-! Statements. -/

theorem pieces_append {α : Type} {isSep : α → Bool} {piece rest : List α} {sep : α}
    (uncut : ∀ item ∈ piece, isSep item = false) (cuts : isSep sep) :
    pieces isSep (piece ++ sep :: rest) = piece :: pieces isSep rest := by
  induction piece with
  | nil => simp [pieces, cuts]
  | cons item others ih =>
    obtain ⟨first, uncut⟩ := List.forall_mem_cons.mp uncut
    simp [pieces, first, ih uncut]

theorem statements?_blank (rest : List Group) :
    statements? (.leaf .newline :: rest) = statements? rest := rfl

theorem statements?_line {line : List Group} {statement : Statement}
    (unbroken : ∀ group ∈ line, group.isLeaf .newline = false)
    (read : statement? (strip Group.isBlank line) = some statement) (rest : List Group) :
    statements? (line ++ .leaf .newline :: rest) = (statements? rest).map (statement :: ·) := by
  have filled : strip Group.isBlank line ≠ [] := by
    intro empty
    rw [empty] at read
    cases read
  rw [statements?, pieces_append unbroken rfl, statements?]
  simp [filled, read, Option.map_eq_bind]

theorem unifyLineEnds_of_notMem {cs : List Char} (unreturned : '\r' ∉ cs) :
    unifyLineEnds cs = cs := by
  induction cs with
  | nil => rfl
  | cons c rest ih =>
    obtain ⟨other, unreturned⟩ := List.ne_and_not_mem_of_not_mem_cons unreturned
    unfold unifyLineEnds
    split
    next same => exact absurd (List.cons.inj same).1.symm other
    next same =>
      cases same
      rw [ih unreturned]
    next same => cases same

/-- The characters are read as the statements, wherever a line begins. -/
structure Spells (cs : List Char) (statements : List Statement) : Prop where
  unreturned : '\r' ∉ cs
  reads : ∃ tokens groups, Mode.Leads .between cs tokens .between ∧ Forms tokens groups ∧
    ∀ rest, statements? (groups ++ rest) = (statements? rest).map (statements ++ ·)

namespace Spells

variable {cs others : List Char} {statements more : List Statement} {statement : Statement}

theorem nil : Spells [] [] :=
  ⟨List.not_mem_nil, [], [], .nil _, forms_nil, fun rest => by simp⟩

theorem append (first : Spells cs statements) (second : Spells others more) :
    Spells (cs ++ others) (statements ++ more) := by
  obtain ⟨unreturned, tokens, groups, leads, forms, reads⟩ := first
  obtain ⟨unreturnedOthers, _, _, leadsOthers, formsOthers, readsOthers⟩ := second
  refine ⟨by simp [unreturned, unreturnedOthers], _, _, leads.append leadsOthers,
    forms.append formsOthers, fun rest => ?_⟩
  rw [List.append_assoc, reads, readsOthers, Option.map_map]
  simp [Function.comp_def]

theorem blank : Spells ['\n'] [] := by
  refine ⟨by decide, [.newline], [.leaf .newline], Mode.leads_marks rfl, forms_newline, ?_⟩
  intro rest
  simp [statements?_blank]

theorem line {line : List Group} {tokens : List Token} (unreturned : '\r' ∉ cs)
    (leads : Mode.Leads .between (cs ++ ['\n']) (tokens ++ [.newline]) .between)
    (forms : Forms tokens line)
    (unbroken : ∀ group ∈ line, group.isLeaf .newline = false)
    (read : statement? (strip Group.isBlank line) = some statement) :
    Spells (cs ++ ['\n']) [statement] := by
  refine ⟨by simp [unreturned], _, _, leads, forms.append forms_newline, fun rest => ?_⟩
  rw [List.append_assoc]
  exact statements?_line unbroken read rest

/-- A document that is spelled so is read as its statements. -/
theorem read? (spells : Spells cs statements) :
    Toml.read? (String.ofList cs) = Node.ofStatements? statements := by
  obtain ⟨unreturned, tokens, groups, leads, forms, reads⟩ := spells
  have unmarked : withoutMark cs = cs := by
    unfold withoutMark
    split
    · -- No token starts with a byte order mark.
      cases leads with
      | cons step => cases step
    · rfl
  have scanned : tokens? (String.ofList cs) = some tokens := by
    rw [tokens?, String.toList_ofList, unmarked, unifyLineEnds_of_notMem unreturned]
    simpa [Mode.scan, Mode.finish] using leads.scan []
  have collected : Group.collect [] [] tokens = some groups := by
    simpa [Group.collect] using forms [] [] []
  have all : statements? groups = some statements := by
    have none : statements? [] = some [] := rfl
    simpa [none] using reads []
  simp [Toml.read?, scanned, collected, all]

end Spells

/-! Sections. -/

variable {key : String}

theorem IsBare.key? {groups : List Group} (bare : IsBare key)
    (whole : pieces (Group.isLeaf .dot) groups = [groups])
    (stripped : strip Group.isBlank groups = [.leaf (.word key.toList)]) :
    key? groups = some [key] := by
  simp only [Toml.key?, keyPart?, whole, List.mapM_cons, List.mapM_nil, stripped, bare.chars]
  simp [depthLimit]

theorem IsBare.return_notMem (bare : IsBare key) : '\r' ∉ key.toList :=
  fun member => absurd (bare.words _ member) (by decide)

/-- The groups of a pair. -/
def pairLine (key : String) (value : Plain) : List Group :=
  [.leaf (.word key.toList), .leaf .space, .leaf .equals, .leaf .space, value.group]

theorem statement?_pairLine {value : Plain} (bare : IsBare key) (isWritable : value.IsWritable) :
    statement? (strip Group.isBlank (pairLine key value)) = some (.pair [key] value.node) := by
  have stripped : strip Group.isBlank (pairLine key value) = pairLine key value := by
    cases value <;> rfl
  have parts : statement? (pairLine key value) =
      ((Toml.key? [.leaf (.word key.toList), .leaf .space]).bind fun path =>
        (value? depthLimit [.leaf .space, value.group]).bind fun node => some (path, node)).map
        fun pair => .pair pair.1 pair.2 := rfl
  rw [stripped, parts, bare.key? rfl rfl, Plain.value?_group isWritable]
  rfl

theorem spells_pair {value : Plain} (bare : IsBare key) (isWritable : value.IsWritable) :
    Spells (key.toList ++ [' ', '=', ' '] ++ value.written ++ ['\n']) [.pair [key] value.node] := by
  have before : Mode.Leads .between (key.toList ++ [' ', '=', ' '])
      [.word key.toList, .space, .equals, .space] .between := bare.leads (by decide) rfl
  have leads : Mode.Leads .between (key.toList ++ [' ', '=', ' '] ++ value.written ++ ['\n'])
      ([.word key.toList, .space, .equals, .space] ++ value.tokens ++ [.newline]) .between := by
    simpa using before.append value.leads
  have forms : Forms ([.word key.toList, .space, .equals, .space] ++ value.tokens)
      (pairLine key value) := by
    have key : Forms [.word key.toList, .space, .equals, .space]
        [.leaf (.word key.toList), .leaf .space, .leaf .equals, .leaf .space] := by
      intro read opened rest
      simp [Group.collect]
    exact key.append value.forms_tokens
  have unreturned : '\r' ∉ key.toList ++ [' ', '=', ' '] ++ value.written := by
    simp [bare.return_notMem, value.return_notMem_written]
  have unbroken : ∀ group ∈ pairLine key value, group.isLeaf .newline = false := by
    cases value <;> simp [pairLine, Plain.group, Group.isLeaf]
  exact .line unreturned leads forms unbroken (statement?_pairLine bare isWritable)

/-- A key between brackets. -/
theorem spells_bracketed {opens closes : List Char} {before after : List Token} {group : Group}
    {statement : Statement} (bare : IsBare key) (opened : opens.map mark? = before.map some)
    (closed : (closes ++ ['\n']).map mark? = (after ++ [Token.newline]).map some)
    (unreturned : '\r' ∉ opens ++ closes)
    (forms : Forms (before ++ .word key.toList :: after) [group])
    (unbroken : group.isLeaf .newline = false)
    (read : statement? (strip Group.isBlank [group]) = some statement) :
    Spells (opens ++ key.toList ++ closes ++ ['\n']) [statement] := by
  have leads : Mode.Leads .between (opens ++ key.toList ++ closes ++ ['\n'])
      (before ++ .word key.toList :: after ++ [.newline]) .between := by
    simpa using (Mode.leads_marks opened).append (bare.leads (by simp) closed)
  have unreturned : '\r' ∉ opens ++ key.toList ++ closes := by
    simp only [List.mem_append, not_or] at unreturned ⊢
    exact ⟨⟨unreturned.1, bare.return_notMem⟩, unreturned.2⟩
  exact .line unreturned leads forms (by simpa using unbroken) read

theorem spells_heading {heading : Heading} (isWritable : heading.IsWritable) :
    Spells heading.written heading.statements := by
  cases heading with
  | none => exact .nil
  | table key =>
    have bare : IsBare key := isWritable
    have forms : Forms ([.opening] ++ .word key.toList :: [.closing])
        [.brackets [.leaf (.word key.toList)]] := by
      intro read opened rest
      simp [Group.collect]
    have read : statement? (strip Group.isBlank [.brackets [.leaf (.word key.toList)]]) =
        (key? [.leaf (.word key.toList)]).map .table := rfl
    rw [bare.key? rfl rfl] at read
    have spells : Spells (['['] ++ key.toList ++ [']'] ++ ['\n']) [.table [key]] :=
      spells_bracketed bare rfl rfl (by decide) forms rfl read
    simpa [Heading.written, Heading.statements] using spells
  | tables key =>
    have bare : IsBare key := isWritable
    have forms : Forms ([.opening, .opening] ++ .word key.toList :: [.closing, .closing])
        [.brackets [.brackets [.leaf (.word key.toList)]]] := by
      intro read opened rest
      simp [Group.collect]
    have read : statement? (strip Group.isBlank [.brackets [.brackets [.leaf (.word key.toList)]]]) =
        (key? [.leaf (.word key.toList)]).map .tables := rfl
    rw [bare.key? rfl rfl] at read
    have spells : Spells (['[', '['] ++ key.toList ++ [']', ']'] ++ ['\n']) [.tables [key]] :=
      spells_bracketed bare rfl rfl (by decide) forms rfl read
    simpa [Heading.written, Heading.statements] using spells

theorem spells_section {s : Section} (isWritable : s.IsWritable) :
    Spells s.written s.statements := by
  obtain ⟨heading, writable⟩ := isWritable
  rw [Section.statements_eq]
  refine .append (spells_heading heading) ?_
  generalize s.pairs = pairs at writable
  induction pairs with
  | nil => exact .nil
  | cons pair rest ih =>
    obtain ⟨⟨bare, isWritable⟩, writable⟩ := List.forall_mem_cons.mp writable
    exact (spells_pair bare isWritable).append (ih writable)

/-- Sections stand one after the other, with a blank line between each two. -/
theorem spells_sections {sections : List Section} (writable : ∀ s ∈ sections, s.IsWritable) :
    Spells (['\n'].intercalate (sections.map Section.written))
      (sections.flatMap Section.statements) := by
  induction sections with
  | nil => exact .nil
  | cons s rest ih =>
    obtain ⟨first, writable⟩ := List.forall_mem_cons.mp writable
    cases rest with
    | nil => simpa using spells_section first
    | cons next more =>
      have spells := (spells_section first).append (Spells.blank.append (ih writable))
      simpa [List.intercalate_cons_cons] using spells

/-- A written document is read as the statements of its sections. -/
theorem read?_print {sections : List Section} (writable : ∀ s ∈ sections, s.IsWritable) :
    read? (print sections) = Node.ofStatements? (sections.flatMap Section.statements) :=
  (spells_sections writable).read?

end Skinning.Toml
