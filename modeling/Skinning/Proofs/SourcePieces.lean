import Skinning.Markup.Event
import Skinning.Markup.Position

/-! The pieces of a source: runs of text, and the constructs that begin with `<`, each up to where
it is whole. Reading a source without a fault yields what its start tags say, in their order. -/
namespace Skinning.Markup

/-- The quote that is open after a character. -/
def nextQuote (quote : Option Char) (c : Char) : Option Char :=
  match quote with
  | some q => if c = q then none else some q
  | none => if c = '"' ∨ c = '\'' then some c else none

def openQuote (text : List Char) : Option Char := text.foldl nextQuote none

/-- Whether a `>` ends the construct of which this has been read, from its `<` on. -/
def mayEnd (read : List Char) : Bool :=
  match read with
  -- The dashes that a comment begins with are not those that it ends with.
  | '<' :: '!' :: '-' :: _ => ['-', '-'].isSuffixOf read && decide (6 ≤ byteSize read)
  | '<' :: '!' :: '[' :: _ => [']', ']'].isSuffixOf read
  -- A document type may have others inside.
  | '<' :: '!' :: _ => read.count '<' == read.count '>' + 1
  | '<' :: '/' :: _ => true
  | '<' :: '?' :: _ => true
  | _ => (openQuote read).isNone

/-- A construct is whole with the first `>` that may end it. -/
def isWhole (text : List Char) : Bool := text.getLast? == some '>' && mayEnd text.dropLast

/-- A start tag, also one that stands for a whole element. -/
def isStartTag : List Char → Bool
  | '<' :: c :: _ => c != '!' && c != '/' && c != '?'
  | _ => false

/-- A final `/` makes a tag that stands for a whole element. -/
def withoutSlash (inside : List Char) : List Char :=
  if inside.getLast? = some '/' then inside.dropLast else inside

/-- What a start tag says. At the end of a source it may lack its `>`. -/
def readStartTag (text : List Char) : Except TagFault Tag :=
  Tag.read (withoutSlash (if isWhole text then text.tail.dropLast else text.tail))

/-- A piece of a source, and all that stands before it. -/
structure Piece where
  before : List Char
  text : List Char
  deriving DecidableEq, Repr

namespace Piece

def offset (p : Piece) : Nat := byteSize p.before

def push (p : Piece) (c : Char) : Piece := ⟨p.before, p.text ++ [c]⟩

/-- The piece after this one. -/
def next (p : Piece) (text : List Char) : Piece := ⟨p.before ++ p.text, text⟩

def isMarkup (p : Piece) : Bool := p.text.head? == some '<'

/-- The pieces of a source, of which this has been read. -/
def split (p : Piece) : List Char → List Piece
  | [] => [p]
  | c :: rest =>
    if p.isMarkup then
      if isWhole (p.push c).text then p.push c :: split ((p.push c).next []) rest
      else split (p.push c) rest
    else if c = '<' then p :: split (p.next [c]) rest
    else split (p.push c) rest

end Piece

def startTags (source : String) : List Piece :=
  (Piece.split ⟨[], []⟩ source.toList).filter fun p => isStartTag p.text

theorem isWhole_append (read : List Char) (c : Char) :
    isWhole (read ++ [c]) = (c == '>' && mayEnd read) := by
  rw [isWhole, List.getLast?_concat, List.dropLast_concat]
  rfl

theorem openQuote_append (text : List Char) (c : Char) :
    openQuote (text ++ [c]) = nextQuote (openQuote text) c := by
  simp [openQuote]

theorem mayEnd_of_isStartTag {first : Char} {rest : List Char}
    (tag : isStartTag ('<' :: first :: rest)) :
    mayEnd ('<' :: first :: rest) = (openQuote ('<' :: first :: rest)).isNone := by
  simp only [isStartTag, Bool.and_eq_true, bne_iff_ne] at tag
  obtain ⟨⟨bang, slash⟩, question⟩ := tag
  simp [mayEnd, bang, slash, question]

theorem isPrefixOf_append {mark read : List Char} (more : List Char)
    (short : mark.length ≤ read.length) :
    mark.isPrefixOf (read ++ more) = mark.isPrefixOf read := by
  rw [Bool.eq_iff_iff, List.isPrefixOf_iff_prefix, List.isPrefixOf_iff_prefix]
  exact ⟨fun longer => List.prefix_of_prefix_length_le longer (List.prefix_append read more) short,
    fun stands => stands.trans (List.prefix_append read more)⟩

/-- The end of a construct, as a mode looks at it. -/
theorem isSuffixOf_construct (mark : Char) (kind opening : Char) (rest : List Char) :
    [mark, mark].isSuffixOf ('<' :: kind :: opening :: rest) =
      [mark, mark].isPrefixOf (rest.reverse ++ [opening, kind]) := by
  have reversed : ('<' :: kind :: opening :: rest).reverse =
      (rest.reverse ++ [opening, kind]) ++ ['<'] := by simp
  rw [List.isSuffixOf, reversed]
  exact isPrefixOf_append ['<'] (by simp)

/-- An item that says what a start tag says, as its offset and its content. -/
def Item.heading? : Item → Option (Nat × Tag)
  | ⟨offset, .opening tag⟩ => some (offset, tag)
  | ⟨offset, .single tag⟩ => some (offset, tag)
  | ⟨_, _⟩ => none

/-- The items say what a piece at an offset says, if it is a start tag, and else nothing. -/
def Tells (items : List Item) (start : Nat) (text : List Char) : Prop :=
  (items.filterMap Item.heading?).map (fun heading => (heading.1, Except.ok heading.2)) =
    if isStartTag text then [(start, readStartTag text)] else []

namespace Mode

/-- How a mode holds what has been read of a construct. -/
inductive Holds : Mode → Nat → List Char → Prop where
  | markup : Holds (.markup start) start ['<']
  | tag (first : Char) (rest : List Char) : isStartTag ('<' :: first :: rest) →
      Holds (.tag start (openQuote ('<' :: first :: rest)) (rest.reverse ++ [first])) start
        ('<' :: first :: rest)
  | closing (rest : List Char) : Holds (.closing start rest.reverse) start ('<' :: '/' :: rest)
  | instruction (rest : List Char) :
      Holds (.instruction start (rest.reverse ++ ['?'])) start ('<' :: '?' :: rest)
  | bang : Holds (.bang start) start ['<', '!']
  | comment (rest : List Char) :
      Holds (.comment start (rest.reverse ++ ['-', '!'])) start ('<' :: '!' :: '-' :: rest)
  | cdata (rest : List Char) :
      Holds (.cdata start (rest.reverse ++ ['[', '!'])) start ('<' :: '!' :: '[' :: rest)
  | doctype (letter : Char) (rest : List Char) : letter = 'D' ∨ letter = 'd' →
      ('<' :: '!' :: letter :: rest).count '<' =
        ('<' :: '!' :: letter :: rest).count '>' + depth + 1 →
      Holds (.doctype start depth (rest.reverse ++ [letter, '!'])) start
        ('<' :: '!' :: letter :: rest)

/-- A mode of which the piece at hand has been read. Offsets of the pieces are ahead by a shift. -/
inductive Reads (shift offset : Nat) (p : Piece) : Mode → Prop
  | text (start : Nat) (read : List Char) (plain : p.isMarkup = false)
      (reached : p.offset + byteSize p.text = offset + shift) :
      Reads shift offset p (.text start read)
  | construct (holds : mode.Holds start p.text) (unended : isWhole p.text = false)
      (placed : p.offset = start + shift) (reached : offset = start + byteSize p.text) :
      Reads shift offset p mode

/-- What a character makes of a construct: it goes on, or it is whole. -/
inductive Advances (start : Nat) (text : List Char) (c : Char) : Mode → List Item → Prop
  | stays (goesOn : isWhole (text ++ [c]) = false) (holds : mode.Holds start (text ++ [c])) :
      Advances start text c mode []
  | ends (place : Nat) (whole : isWhole (text ++ [c]) = true)
      (tells : Tells items start (text ++ [c])) : Advances start text c (textAt place) items

variable {mode next : Mode} {start offset : Nat} {c : Char} {text read : List Char}
  {items : List Item}

theorem endTag_tells (ends : endTag start read = .ok items) :
    (items.filterMap Item.heading?).map (fun heading => (heading.1, Except.ok heading.2)) =
      [(start, Tag.read (withoutSlash read.reverse))] := by
  unfold endTag at ends
  split at ends
  next content =>
    split at ends
    next single reads =>
      cases ends
      simp [Item.heading?, withoutSlash, reads]
    · cases ends
  next content other =>
    split at ends
    next opening reads =>
      cases ends
      have unslashed : read.head? ≠ some '/' := fun slash => by
        cases read with
        | nil => cases slash
        | cons c rest => exact other rest (Option.some.inj slash ▸ rfl)
      simp [Item.heading?, withoutSlash, unslashed, reads]
    · cases ends

theorem tells_nothing (silent : items.filterMap Item.heading? = [])
    (other : isStartTag text = false) : Tells items start text := by
  rw [Tells, silent, other]
  rfl

theorem tells_whole (tag : isStartTag (text ++ ['>'])) (whole : isWhole (text ++ ['>']))
    (inside : text.tail = read.reverse) (filled : text ≠ [])
    (ends : endTag start read = .ok items) : Tells items start (text ++ ['>']) := by
  rw [Tells, endTag_tells ends, if_pos tag, readStartTag, if_pos whole,
    List.tail_append_of_ne_nil filled, List.dropLast_concat, inside]

theorem ends_of_map {ended : Except LocatedFault (List Item)}
    (stepped : ended.map (next, ·) = .ok (mode, items)) : next = mode ∧ ended = .ok items := by
  cases ended with
  | error fault => cases stepped
  | ok items =>
    cases stepped
    exact ⟨rfl, rfl⟩

theorem ofMarkup_advances (stepped : ofMarkup start c = .ok (next, items)) :
    Advances start ['<'] c next items := by
  unfold ofMarkup at stepped
  split at stepped
  · cases stepped
    exact .stays rfl .bang
  · cases stepped
    exact .stays rfl (.closing [])
  · cases stepped
    exact .stays rfl (.instruction [])
  · obtain ⟨rfl, ended⟩ := ends_of_map stepped
    exact .ends _ rfl (tells_whole rfl rfl rfl (by simp) ended)
  next bang slash question greater =>
    cases stepped
    have tag : isStartTag ['<', c] := by
      simp only [isStartTag, Bool.and_eq_true, bne_iff_ne]
      exact ⟨⟨bang, slash⟩, question⟩
    refine .stays ?_ (.tag c [] tag)
    rw [isWhole_append, beq_eq_false_iff_ne.mpr greater]
    rfl

theorem tag_advances {first : Char} {rest : List Char} (tag : isStartTag ('<' :: first :: rest))
    (stepped : (Mode.tag start (openQuote ('<' :: first :: rest)) (rest.reverse ++ [first])).step
      offset c = .ok (next, items)) : Advances start ('<' :: first :: rest) c next items := by
  have whole := (isWhole_append ('<' :: first :: rest) c).trans
    (congrArg (c == '>' && ·) (mayEnd_of_isStartTag tag))
  have goesOn (others : isWhole ('<' :: first :: rest ++ [c]) = false) (quote : Option Char)
      (after : nextQuote (openQuote ('<' :: first :: rest)) c = quote) :
      Advances start ('<' :: first :: rest) c
        (.tag start quote (c :: (rest.reverse ++ [first]))) [] := by
    have held := @Holds.tag start first (rest ++ [c]) tag
    rw [List.reverse_append, ← List.cons_append, ← List.cons_append, openQuote_append, after]
      at held
    exact .stays others held
  cases opened : openQuote ('<' :: first :: rest) with
  | some q =>
    rw [opened] at stepped whole goesOn
    cases stepped
    exact goesOn (whole.trans (Bool.and_false _)) _ rfl
  | none =>
    rw [opened] at stepped whole goesOn
    simp only [step] at stepped
    split at stepped
    next isEnd =>
      subst isEnd
      obtain ⟨rfl, ended⟩ := ends_of_map stepped
      exact .ends _ whole (tells_whole tag whole (by simp) (by simp) ended)
    next other =>
      cases stepped
      exact goesOn (whole.trans (by simp [other])) _ rfl

/-! What is read over says nothing of a start tag. -/

theorem endInstruction_silent {complete : Bool}
    (ends : endInstruction start read complete = .ok items) :
    items.filterMap Item.heading? = [] := by
  unfold endInstruction at ends
  split at ends <;> cases ends
  rfl

theorem endComment_silent {place : Nat} (ends : endComment place read = .ok items) :
    items.filterMap Item.heading? = [] := by
  unfold endComment at ends
  split at ends <;> cases ends
  rfl

theorem endCData_silent {place : Nat} (ends : endCData start place read = .ok items) :
    items.filterMap Item.heading? = [] := by
  simp only [endCData] at ends
  split at ends <;> cases ends
  rfl

theorem endDoctype_silent {place : Nat} (ends : endDoctype place read = .ok items) :
    items.filterMap Item.heading? = [] := by
  simp only [endDoctype] at ends
  split at ends
  · split at ends <;> cases ends
    rfl
  · cases ends

theorem ofBang_advances (stepped : ofBang start c = .ok (next, items)) :
    Advances start ['<', '!'] c next items := by
  unfold ofBang at stepped
  split at stepped
  · cases stepped
    exact .stays rfl (.comment [])
  · cases stepped
    exact .stays rfl (.cdata [])
  · cases stepped
    exact .stays rfl (.doctype 'D' [] (.inl rfl) rfl)
  · cases stepped
    exact .stays rfl (.doctype 'd' [] (.inr rfl) rfl)
  · cases stepped

/-- What ends a construct that is no tag. -/
def Quiet (ended : Except LocatedFault (Mode × List Item)) : Prop :=
  ∀ next items, ended = .ok (next, items) →
    (∃ place, next = textAt place) ∧ items.filterMap Item.heading? = []

theorem quiet_map {ended : Except LocatedFault (List Item)} (place : Nat)
    (silent : ∀ items, ended = .ok items → items.filterMap Item.heading? = []) :
    Quiet (ended.map (textAt place, ·)) := fun next items stepped => by
  obtain ⟨rfl, ends⟩ := ends_of_map stepped
  exact ⟨⟨place, rfl⟩, silent items ends⟩

/-- A construct that is no tag is read over, up to the character that ends it. -/
theorem quiet_advances {isEnd : Prop} [Decidable isEnd] {after : Mode}
    {ended : Except LocatedFault (Mode × List Item)}
    (whole : isWhole (text ++ [c]) = decide isEnd) (other : isStartTag (text ++ [c]) = false)
    (quiet : Quiet ended) (held : ¬ isEnd → after.Holds start (text ++ [c]))
    (stepped : (if isEnd then ended else .ok (after, [])) = .ok (next, items)) :
    Advances start text c next items := by
  split at stepped
  next ends =>
    obtain ⟨⟨place, rfl⟩, silent⟩ := quiet next items stepped
    exact .ends place (whole.trans (decide_eq_true ends)) (tells_nothing silent other)
  next goesOn =>
    cases stepped
    exact .stays (whole.trans (decide_eq_false goesOn)) (held goesOn)

theorem isWhole_of_mayEnd {others : Prop} [Decidable others] (may : mayEnd text = decide others) :
    isWhole (text ++ [c]) = decide (c = '>' ∧ others) := by
  rw [isWhole_append, may, Bool.eq_iff_iff]
  simp

/-- Every `<` inside has its `>` before the one that ends the construct. -/
theorem count_deeper {read : List Char} {depth : Nat}
    (counted : read.count '<' = read.count '>' + depth + 1) (goesOn : ¬ (c = '>' ∧ depth = 0)) :
    (read ++ [c]).count '<' = (read ++ [c]).count '>' +
      (if c = '<' then depth + 1 else if c = '>' then depth - 1 else depth) + 1 := by
  rw [List.count_append, List.count_append, counted, List.count_singleton, List.count_singleton]
  by_cases opens : c = '<'
  · subst opens
    simp
    omega
  · by_cases closes : c = '>'
    · subst closes
      have deeper : depth ≠ 0 := fun flat => goesOn ⟨rfl, flat⟩
      simp
      omega
    · simp [opens, closes]

theorem step_advances (holds : mode.Holds start text) (atEnd : offset = start + byteSize text)
    (stepped : mode.step offset c = .ok (next, items)) : Advances start text c next items := by
  cases holds with
  | markup => exact ofMarkup_advances stepped
  | tag first rest tag => exact tag_advances tag stepped
  | closing rest =>
    have quiet : Quiet (.ok (textAt (offset + c.utf8Size), endClosing start rest.reverse true)) :=
      fun next items ended => by
        cases ended
        exact ⟨⟨_, rfl⟩, rfl⟩
    simp only [step] at stepped
    refine quiet_advances ?_ rfl quiet ?_ stepped
    · exact (isWhole_append _ c).trans (Bool.and_true _)
    · exact fun _ => by simpa using @Holds.closing start (rest ++ [c])
  | instruction rest =>
    simp only [step] at stepped
    refine quiet_advances ?_ rfl (quiet_map _ fun _ => endInstruction_silent) ?_ stepped
    · exact (isWhole_append _ c).trans (Bool.and_true _)
    · exact fun _ => by simpa using @Holds.instruction start (rest ++ [c])
  | bang => exact ofBang_advances stepped
  | comment rest =>
    simp only [step] at stepped
    refine quiet_advances (isWhole_of_mayEnd ?_) rfl (quiet_map _ fun _ => endComment_silent) ?_
      stepped
    · rw [atEnd, Bool.decide_and, Bool.decide_eq_true, ← isSuffixOf_construct]
      simp only [Nat.add_le_add_iff_left]
      rfl
    · exact fun _ => by simpa using @Holds.comment start (rest ++ [c])
  | cdata rest =>
    simp only [step] at stepped
    refine quiet_advances (isWhole_of_mayEnd ?_) rfl (quiet_map _ fun _ => endCData_silent) ?_
      stepped
    · rw [Bool.decide_eq_true, ← isSuffixOf_construct]
      rfl
    · exact fun _ => by simpa using @Holds.cdata start (rest ++ [c])
  | @doctype depth _ letter rest isLetter counted =>
    have may : mayEnd ('<' :: '!' :: letter :: rest) = decide (depth = 0) := by
      have counts : mayEnd ('<' :: '!' :: letter :: rest) =
          (('<' :: '!' :: letter :: rest).count '<' ==
            ('<' :: '!' :: letter :: rest).count '>' + 1) := by
        rcases isLetter with rfl | rfl <;> rfl
      rw [counts, counted, Bool.eq_iff_iff, beq_iff_eq, decide_eq_true_iff]
      omega
    simp only [step] at stepped
    refine quiet_advances (isWhole_of_mayEnd may) rfl (quiet_map _ fun _ => endDoctype_silent) ?_
      stepped
    intro goesOn
    simpa using Holds.doctype letter (rest ++ [c]) isLetter (count_deeper counted goesOn)

/-- What a construct says that the source ends in. -/
theorem finish_tells (holds : mode.Holds start text) (unended : isWhole text = false)
    (finished : mode.finish = .ok items) : Tells items start text := by
  cases holds with
  | markup =>
    cases finished
    exact tells_nothing rfl rfl
  | tag first rest tag =>
    rw [Tells, endTag_tells finished, if_pos tag, readStartTag, if_neg (by simp [unended])]
    simp
  | closing rest =>
    cases finished
    exact tells_nothing rfl rfl
  | instruction rest => exact tells_nothing (endInstruction_silent finished) rfl
  | bang => cases finished
  | comment rest => cases finished
  | cdata rest => cases finished
  | doctype letter rest isLetter counted => cases finished

theorem Holds.begins (holds : mode.Holds start text) : text.head? = some '<' := by
  cases holds <;> rfl

end Mode

/-- The items say what the start tags among some pieces say, one after the other. -/
def Lists (shift : Nat) (items : List Item) (pieces : List Piece) : Prop :=
  (items.filterMap Item.heading?).map (fun heading => (heading.1 + shift, Except.ok heading.2)) =
    (pieces.filter fun p => isStartTag p.text).map fun p => (p.offset, readStartTag p.text)

variable {shift : Nat} {items more : List Item} {pieces others : List Piece}

theorem Lists.append (first : Lists shift items pieces) (second : Lists shift more others) :
    Lists shift (items ++ more) (pieces ++ others) := by
  rw [Lists, List.filterMap_append, List.map_append, first, second, List.filter_append,
    List.map_append]

theorem Tells.lists {p : Piece} {start : Nat} (tells : Tells items start p.text)
    (placed : p.offset = start + shift) : Lists shift items [p] := by
  have shifted := congrArg (List.map fun heading : Nat × Except TagFault Tag =>
    (heading.1 + shift, heading.2)) tells
  rw [List.map_map] at shifted
  rw [Lists, List.filter_cons]
  refine shifted.trans ?_
  split <;> simp [placed]

theorem isStartTag_of_not_isMarkup {p : Piece} (plain : p.isMarkup = false) :
    isStartTag p.text = false := by
  unfold isStartTag
  split
  next text => simp [Piece.isMarkup, text] at plain
  next => rfl

theorem endText_lists {start : Nat} {read : List Char} {p : Piece} (plain : p.isMarkup = false)
    (ends : Mode.endText start read = .ok items) : Lists shift items [p] := by
  have silent : items.filterMap Item.heading? = [] := by
    unfold Mode.endText at ends
    split at ends
    · cases ends
      rfl
    · split at ends <;> cases ends
      rfl
  simp [Lists, silent, isStartTag_of_not_isMarkup plain]

namespace Piece

variable {p q : Piece} {c : Char} {cs : List Char}

theorem isMarkup_push (p : Piece) (other : c ≠ '<') : (p.push c).isMarkup = p.isMarkup := by
  obtain ⟨before, text⟩ := p
  cases text with
  | nil => simp [push, isMarkup, other]
  | cons d rest => rfl

theorem split_text (plain : p.isMarkup = false) (other : c ≠ '<') (rest : List Char) :
    p.split (c :: rest) = (p.push c).split rest := by
  simp only [split, plain, Bool.false_eq_true, if_false, if_neg other]

theorem split_markup (plain : p.isMarkup = false) (rest : List Char) :
    p.split ('<' :: rest) = p :: (p.next ['<']).split rest := by
  simp only [split, plain, Bool.false_eq_true, if_false, if_true]

theorem split_inside (markup : p.isMarkup = true) (goesOn : isWhole (p.push c).text = false)
    (rest : List Char) : p.split (c :: rest) = (p.push c).split rest := by
  simp only [split, markup, goesOn, Bool.false_eq_true, if_false, if_true]

theorem split_whole (markup : p.isMarkup = true) (whole : isWhole (p.push c).text = true)
    (rest : List Char) :
    p.split (c :: rest) = p.push c :: ((p.push c).next []).split rest := by
  simp only [split, markup, whole, if_true]

theorem offset_next (p : Piece) (text : List Char) : p.offset ≤ (p.next text).offset := by
  rw [offset, offset, next, byteSize_append]
  exact Nat.le_add_right _ _

/-- A piece stands in the source as it is. -/
theorem split_stands (member : q ∈ p.split cs) :
    p.offset ≤ q.offset ∧ q.before ++ q.text <+: p.before ++ p.text ++ cs := by
  induction cs generalizing p with
  | nil =>
    obtain rfl := List.mem_singleton.mp member
    simp
  | cons c rest ih =>
    rw [split] at member
    split at member
    · split at member
      · rcases List.mem_cons.mp member with rfl | later
        · exact ⟨Nat.le_refl _, by simp [push]⟩
        · obtain ⟨placed, stands⟩ := ih later
          exact ⟨Nat.le_trans (offset_next (p.push c) []) placed,
            by simpa [push, next] using stands⟩
      · simpa [push, offset] using ih member
    · split at member
      · rcases List.mem_cons.mp member with rfl | later
        · exact ⟨Nat.le_refl _, by simp⟩
        · obtain ⟨placed, stands⟩ := ih later
          exact ⟨Nat.le_trans (offset_next p [c]) placed, by simpa [next] using stands⟩
      · simpa [push, offset] using ih member

theorem split_sorted (p : Piece) (cs : List Char) :
    (p.split cs).Pairwise fun p q => p.offset ≤ q.offset := by
  induction cs generalizing p with
  | nil => exact List.pairwise_singleton _ p
  | cons c rest ih =>
    rw [split]
    split
    · split
      · refine List.pairwise_cons.mpr ⟨fun q later => ?_, ih _⟩
        exact Nat.le_trans (offset_next (p.push c) []) (split_stands later).1
      · exact ih _
    · split
      · refine List.pairwise_cons.mpr ⟨fun q later => ?_, ih _⟩
        exact Nat.le_trans (offset_next p [c]) (split_stands later).1
      · exact ih _

end Piece

namespace Mode

variable {mode next : Mode} {offset : Nat} {c : Char} {p : Piece}

theorem Reads.step (reads : Reads shift offset p mode)
    (stepped : mode.step offset c = .ok (next, items)) : ∃ finished q,
      (∀ rest, p.split (c :: rest) = finished ++ q.split rest) ∧
        Reads shift (offset + c.utf8Size) q next ∧ Lists shift items finished := by
  have size (text : List Char) : byteSize (text ++ [c]) = byteSize text + c.utf8Size := by
    simp [byteSize_append, byteSize]
  cases reads with
  | text start read plain reached =>
    simp only [Mode.step] at stepped
    split at stepped
    next opens =>
      subst opens
      obtain ⟨rfl, ended⟩ := ends_of_map stepped
      refine ⟨[p], p.next ['<'], Piece.split_markup plain, ?_, endText_lists plain ended⟩
      refine .construct .markup rfl ?_ rfl
      rw [← reached]
      exact byteSize_append p.before p.text
    next other =>
      cases stepped
      refine ⟨[], p.push c, Piece.split_text plain other, ?_, rfl⟩
      refine .text _ _ ((p.isMarkup_push other).trans plain) ?_
      simp only [Piece.push, Piece.offset, size] at reached ⊢
      omega
  | construct holds unended placed reached =>
    have markup : p.isMarkup = true := by simp [Piece.isMarkup, holds.begins]
    cases step_advances holds reached stepped with
    | stays goesOn held =>
      refine ⟨[], p.push c, Piece.split_inside markup goesOn, ?_, rfl⟩
      refine .construct held goesOn placed ?_
      rw [Piece.push, size, reached, Nat.add_assoc]
    | ends place whole tells =>
      refine ⟨[p.push c], (p.push c).next [], Piece.split_whole markup whole, ?_,
        tells.lists placed⟩
      refine .text _ _ rfl ?_
      simp only [Piece.next, Piece.push, Piece.offset, byteSize_append, byteSize] at placed ⊢
      omega

/-- The end of the source. -/
theorem Reads.finish (reads : Reads shift offset p mode) (finished : mode.finish = .ok items) :
    Lists shift items [p] := by
  cases reads with
  | text start read plain reached => exact endText_lists plain finished
  | construct holds unended placed reached =>
    exact (finish_tells holds unended finished).lists placed

/-- A scan without a fault yields what the start tags among the pieces say. -/
theorem Reads.scan {cs : List Char} (reads : Reads shift offset p mode)
    (sound : (mode.scan offset cs).fault? = none) :
    Lists shift (mode.scan offset cs).items (p.split cs) := by
  induction cs generalizing mode offset p with
  | nil =>
    simp only [Mode.scan, Piece.split] at sound ⊢
    cases finished : mode.finish with
    | error fault =>
      rw [finished] at sound
      cases sound
    | ok items => exact reads.finish finished
  | cons c rest ih =>
    simp only [Mode.scan] at sound ⊢
    cases stepped : mode.step offset c with
    | error fault =>
      rw [stepped] at sound
      cases sound
    | ok result =>
      obtain ⟨next, items⟩ := result
      rw [stepped] at sound
      obtain ⟨finished, q, splits, after, lists⟩ := reads.step stepped
      rw [splits]
      exact lists.append (ih after sound)

end Mode

/-- How many bytes a source has in front that its reader does not count. -/
def markSize (source : String) : Nat := if source.toList.head? = some '\uFEFF' then 3 else 0

theorem withoutMark_of_head? {cs : List Char} (unmarked : cs.head? ≠ some '\uFEFF') :
    withoutMark cs = cs := by
  unfold withoutMark
  split
  · exact absurd rfl unmarked
  · rfl

/-- Without a fault, the items of a source say what its start tags say, in their order. -/
theorem scan_startTags {source : String} (sound : (Scan.ofString source).fault? = none) :
    ((Scan.ofString source).items.filterMap Item.heading?).map
        (fun heading => (heading.1 + markSize source, Except.ok heading.2)) =
      (startTags source).map fun p => (p.offset, readStartTag p.text) := by
  rw [startTags, markSize]
  rw [Scan.ofString] at sound ⊢
  by_cases marked : source.toList.head? = some '\uFEFF'
  · obtain ⟨rest, chars⟩ := List.head?_eq_some_iff.mp marked
    rw [if_pos marked, chars, Piece.split_text rfl (by decide)]
    rw [chars] at sound
    exact Mode.Reads.scan (.text _ _ rfl rfl) sound
  · rw [withoutMark_of_head? marked] at sound ⊢
    rw [if_neg marked]
    exact Mode.Reads.scan (.text _ _ rfl rfl) sound

end Skinning.Markup
