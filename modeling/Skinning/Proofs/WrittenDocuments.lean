import Skinning.Markup.Document
import Skinning.Proofs.WrittenTags

/-! How trees of elements are written as documents, and that reading a written tree gives back
that tree. Only the lines of its elements are those of the text. -/
namespace Skinning
open Markup

/-- What an element's start tag says. -/
def Element.head (e : Element) : Tag := ⟨e.tag, e.attributes⟩

/-- The names in the tree are names, and each text that is there has characters. -/
inductive Element.IsWritable : Element → Prop where
  | intro {e : Element} : e.head.IsWritable → e.text? ≠ some "" → (∀ child ∈ e.children, child.IsWritable) →
      e.IsWritable

mutual

/-- The texts that an element is written as. Without text and children it may be a single tag. -/
inductive Element.Writes : Element → List Char → Prop where
  | single {e : Element} : e.text? = none → e.children = [] →
      e.Writes ('<' :: (writeTag e.head ++ ['/', '>']))
  | whole {e : Element} : Element.WritesAll e.children inside →
      e.Writes ('<' :: (writeTag e.head ++ ['>']) ++
        (escape e.text.toList ++ (inside ++ '<' :: '/' :: (e.tag.toList ++ ['>']))))

inductive Element.WritesAll : List Element → List Char → Prop where
  | nil : Element.WritesAll [] []
  | cons {text texts : List Char} : Element.Writes e text → Element.WritesAll rest texts →
      Element.WritesAll (e :: rest) (text ++ texts)

end

mutual

/-- The tree without the lines that its tags stand in. -/
def Element.unlined : Element → Element
  | ⟨tag, attributes, text?, _, children⟩ =>
    ⟨tag, attributes, text?, 0, Element.unlinedAll children⟩

def Element.unlinedAll : List Element → List Element
  | [] => []
  | e :: rest => e.unlined :: Element.unlinedAll rest

end

namespace Markup

@[simp] theorem Scan.after_nil (s : Scan) : s.after [] = s := rfl

@[simp] theorem Scan.after_after (xs ys : List Item) (s : Scan) :
    Scan.after xs (Scan.after ys s) = Scan.after (xs ++ ys) s := by
  simp [Scan.after]

namespace Mode

/-- Reading the characters from an offset on leads to another mode, and yields items. -/
def Leads (mode : Mode) (offset : Nat) (cs : List Char) (items : List Item) (next : Mode) : Prop :=
  ∀ rest, mode.scan offset (cs ++ rest) =
    Scan.after items (next.scan (offset + byteSize cs) rest)

theorem Leads.nil (mode : Mode) (offset : Nat) : mode.Leads offset [] [] mode := fun _ => rfl

theorem Leads.append {mode next last : Mode} {offset : Nat} {xs ys : List Char}
    {items more : List Item} (first : mode.Leads offset xs items next)
    (second : next.Leads (offset + byteSize xs) ys more last) :
    mode.Leads offset (xs ++ ys) (items ++ more) last := fun rest => by
  rw [List.append_assoc, first, second, Scan.after_after, byteSize_append, Nat.add_assoc]

theorem Leads.cons {mode next last : Mode} {offset : Nat} {c : Char} {cs : List Char}
    {items : List Item} (step : mode.step offset c = .ok (next, []))
    (others : next.Leads (offset + c.utf8Size) cs items last) :
    mode.Leads offset (c :: cs) items last := fun rest => by
  simp only [List.cons_append, scan, step, others rest, Scan.after_nil, byteSize, Nat.add_assoc]

theorem Leads.single {mode next : Mode} {offset : Nat} {c : Char} {items : List Item}
    (step : mode.step offset c = .ok (next, items)) : mode.Leads offset [c] items next :=
  fun rest => by simp only [List.cons_append, List.nil_append, scan, step, byteSize, Nat.add_zero]

/-- A mode that takes in each of the characters. -/
theorem leads_of_step (take : List Char → Mode) {cs : List Char}
    (step : ∀ c ∈ cs, ∀ read offset, (take read).step offset c = .ok (take (c :: read), []))
    (read : List Char) (offset : Nat) : (take read).Leads offset cs [] (take (cs.reverse ++ read)) := by
  induction cs generalizing read offset with
  | nil => exact Leads.nil _ _
  | cons c rest ih =>
    have others := ih (fun d member => step d (List.mem_cons_of_mem c member)) (c :: read)
      (offset + c.utf8Size)
    simpa using Leads.cons (step c List.mem_cons_self read offset) others

theorem leads_text {cs : List Char} (plain : ∀ c ∈ cs, c ≠ '<') (start : Nat) (read : List Char)
    (offset : Nat) : (Mode.text start read).Leads offset cs [] (.text start (cs.reverse ++ read)) :=
  leads_of_step (.text start) (fun c member read offset => by simp [step, plain c member])
    read offset

/-- Text that is pending is complete where markup begins. -/
theorem Leads.flush {start start' offset : Nat} {read cs : List Char} {items pending : List Item}
    {next : Mode} (ends : endText start read = .ok pending)
    (leads : (textAt start').Leads offset ('<' :: cs) items next) :
    (Mode.text start read).Leads offset ('<' :: cs) (pending ++ items) next := fun rest => by
  have fresh := leads rest
  simp only [List.cons_append, textAt, scan, step, endText, List.isEmpty_nil, if_true,
    Except.map, Scan.after_nil] at fresh
  simp only [List.cons_append, scan, step, ends, if_true, Except.map, fresh, Scan.after_after]

/-! A written tag leaves no quote open. -/

variable (start : Nat)

theorem leads_name {cs : List Char} (named : ∀ c ∈ cs, isNameChar c) (read : List Char)
    (offset : Nat) :
    (Mode.tag start none read).Leads offset cs [] (.tag start none (cs.reverse ++ read)) := by
  refine leads_of_step (.tag start none) (fun c member read offset => ?_) read offset
  have others := not_delimiter (named c member)
  simp only [delimiters, List.mem_cons, List.not_mem_nil, or_false, not_or] at others
  simp [step, others]

theorem leads_value {cs : List Char} (unquoted : ∀ c ∈ cs, c ≠ '"') (read : List Char)
    (offset : Nat) : (Mode.tag start (some '"') read).Leads offset cs []
      (.tag start (some '"') (cs.reverse ++ read)) :=
  leads_of_step (.tag start (some '"'))
    (fun c member read offset => by simp [step, unquoted c member]) read offset

theorem leads_attribute {key : String} (named : isName key) (value : String) (read : List Char)
    (offset : Nat) : (Mode.tag start none read).Leads offset (writeAttribute (key, value)) []
      (.tag start none ((writeAttribute (key, value)).reverse ++ read)) := by
  have keyRead := leads_name start (fun c => isNameChar_of_mem named (c := c))
  have unquoted : ∀ c ∈ escape value.toList, c ≠ '"' := fun c member =>
    (plain_of_mem_escape member).2.2
  have run : (Mode.tag start none read).Leads offset
      (' ' :: (key.toList ++ '=' :: '"' :: (escape value.toList ++ ['"']))) [] _ :=
    .cons rfl ((keyRead _ _).append (.cons rfl (.cons rfl
      ((leads_value start unquoted _ _).append (.single rfl)))))
  simpa [writeAttribute] using run

theorem leads_attributes {attributes : List (String × String)}
    (named : ∀ key ∈ attributes.map Prod.fst, isName key) (read : List Char) (offset : Nat) :
    (Mode.tag start none read).Leads offset (attributes.flatMap writeAttribute) []
      (.tag start none ((attributes.flatMap writeAttribute).reverse ++ read)) := by
  induction attributes generalizing read offset with
  | nil => exact Leads.nil _ _
  | cons pair rest ih =>
    have first := leads_attribute start (named pair.1 List.mem_cons_self) pair.2 read
      offset
    have others := ih (fun key member => named key (List.mem_cons_of_mem pair.1 member))
    simpa using first.append (others _ _)

theorem ofMarkup_name {c : Char} (named : isNameChar c) :
    ofMarkup start c = .ok (.tag start none [c], []) := by
  have others := not_delimiter named
  simp only [delimiters, List.mem_cons, List.not_mem_nil, or_false, not_or] at others
  unfold ofMarkup
  split <;> simp_all

/-- Up to its end, a written tag is read as it stands. -/
theorem leads_tag {tag : Tag} (writable : tag.IsWritable) (start offset : Nat) :
    (textAt start).Leads offset ('<' :: writeTag tag) []
      (.tag offset none (writeTag tag).reverse) := by
  obtain ⟨first, others, spelled, chars⟩ := exists_of_isName writable.named
  have nameRead := leads_name offset (fun c member => chars c (List.mem_cons_of_mem first member))
  have run : (textAt start).Leads offset
      ('<' :: first :: (others ++ tag.attributes.flatMap writeAttribute)) [] _ :=
    .cons rfl (.cons (ofMarkup_name offset (chars first List.mem_cons_self))
      ((nameRead _ _).append (leads_attributes offset writable.keysNamed _ _)))
  simpa [writeTag, spelled] using run

theorem endTag_single {tag : Tag} (writable : tag.IsWritable) (start : Nat) :
    endTag start ('/' :: (writeTag tag).reverse) = .ok [⟨start, .single tag⟩] := by
  simp [endTag, Tag.read_writeTag writable]

theorem slash_ne_of_writeTag {tag : Tag} (writable : tag.IsWritable) {c : Char} {read : List Char}
    (reversed : (writeTag tag).reverse = c :: read) : c ≠ '/' := by
  rcases List.eq_nil_or_concat tag.attributes with bare | ⟨attributes, ⟨key, value⟩, last⟩
  · have member : c ∈ tag.name.toList := by
      have inTag : c ∈ (writeTag tag).reverse := reversed ▸ List.mem_cons_self
      simpa [writeTag, bare] using inTag
    intro slash
    exact not_delimiter (isNameChar_of_mem writable.named member) (by simp [slash, delimiters])
  · have quoted : writeTag tag = (tag.name.toList ++ attributes.flatMap writeAttribute ++
        ' ' :: key.toList ++ '=' :: '"' :: escape value.toList) ++ ['"'] := by
      simp [writeTag, last, writeAttribute]
    rw [quoted, List.reverse_append] at reversed
    rw [← (List.cons.inj reversed).1]
    decide

theorem endTag_opening {tag : Tag} (writable : tag.IsWritable) (start : Nat) :
    endTag start (writeTag tag).reverse = .ok [⟨start, .opening tag⟩] := by
  unfold endTag
  split
  next read reversed => exact absurd rfl (slash_ne_of_writeTag writable reversed)
  next => simp [Tag.read_writeTag writable]

theorem leads_opening {tag : Tag} (writable : tag.IsWritable) (start offset : Nat) :
    ∃ next, (textAt start).Leads offset ('<' :: (writeTag tag ++ ['>'])) [⟨offset, .opening tag⟩]
      (textAt next) := by
  have ends (place : Nat) : (Mode.tag offset none (writeTag tag).reverse).step place '>' =
      .ok (textAt (place + 1), [⟨offset, .opening tag⟩]) := by
    rw [step, if_pos rfl, endTag_opening writable]
    rfl
  exact ⟨_, (leads_tag writable start offset).append (.single (ends _))⟩

theorem leads_single {tag : Tag} (writable : tag.IsWritable) (start offset : Nat) :
    ∃ next, (textAt start).Leads offset ('<' :: (writeTag tag ++ ['/', '>']))
      [⟨offset, .single tag⟩] (textAt next) := by
  have ends (place : Nat) : (Mode.tag offset none ('/' :: (writeTag tag).reverse)).step place '>' =
      .ok (textAt (place + 1), [⟨offset, .single tag⟩]) := by
    rw [step, if_pos rfl, endTag_single writable]
    rfl
  exact ⟨_, (leads_tag writable start offset).append (.cons rfl (.single (ends _)))⟩

theorem leads_closing {name : String} (named : isName name) (start offset : Nat) :
    ∃ next, (textAt start).Leads offset ('<' :: '/' :: (name.toList ++ ['>']))
      [⟨offset, .closing name true⟩] (textAt next) := by
  have plain : ∀ c ∈ name.toList, c ≠ '>' := fun c member same =>
    not_delimiter (isNameChar_of_mem named member) (by simp [same, delimiters])
  have nameRead (place : Nat) : (Mode.closing offset []).Leads place name.toList []
      (.closing offset (name.toList.reverse ++ [])) :=
    leads_of_step (.closing offset) (fun c member read place => by simp [step, plain c member])
      [] place
  have ends (place : Nat) : (Mode.closing offset (name.toList.reverse ++ [])).step place '>' =
      .ok (textAt (place + 1), [⟨offset, .closing name true⟩]) := by
    simp [step, endClosing]
    rfl
  exact ⟨_, .cons rfl (.cons rfl ((nameRead _).append (.single (ends _))))⟩

/-- The items of a text. An empty one leaves none. -/
def textItems (start : Nat) (text : String) : List Item :=
  if text = "" then [] else [⟨start, .text text⟩]

theorem endText_escape (start : Nat) (text : String) :
    endText start ((escape text.toList).reverse ++ []) = .ok (textItems start text) := by
  by_cases empty : text = ""
  · simp [empty, endText, textItems, escape]
  · have filled : escape text.toList ≠ [] := fun nothing => by
      have decoded := unescape_escape text.toList
      rw [nothing, String.ofList_toList] at decoded
      exact empty (Except.ok.inj decoded).symm
    simp [endText, textItems, empty, filled, unescape_escape]

/-- A written text is pending until markup follows. -/
theorem leads_escape (start : Nat) (text : String) (offset : Nat) {cs : List Char}
    {items : List Item} {next : Mode}
    (others : (textAt start).Leads (offset + byteSize (escape text.toList)) ('<' :: cs) items next) :
    (textAt start).Leads offset (escape text.toList ++ '<' :: cs) (textItems start text ++ items)
      next := by
  have plain : ∀ c ∈ escape text.toList, c ≠ '<' := fun c member => (plain_of_mem_escape member).1
  exact (leads_text plain start [] offset).append (others.flush (endText_escape start text))

end Mode

namespace Assembly

variable (lineAt : Nat → Nat)

theorem run_append {a b : Assembly} {xs : List Item} (first : a.run lineAt xs = .ok b)
    (ys : List Item) : a.run lineAt (xs ++ ys) = b.run lineAt ys := by
  induction xs generalizing a with
  | nil =>
    cases first
    rfl
  | cons item rest ih =>
    simp only [List.cons_append, run] at first ⊢
    cases stepped : a.step lineAt item with
    | error fault =>
      rw [stepped] at first
      cases first
    | ok next =>
      rw [stepped] at first
      exact ih first

theorem run_single (a : Assembly) (item : Item) : a.run lineAt [item] = a.step lineAt item := by
  simp only [run]
  cases a.step lineAt item <;> rfl

theorem trimName_of_isName {name : String} (named : isName name) : trimName name = name := by
  obtain ⟨first, others, spelled, chars⟩ := exists_of_isName named
  have firstPlain := not_isBlank (chars first List.mem_cons_self)
  have lasts : name.toList.reverse.dropWhile isBlank = name.toList.reverse := by
    cases reversed : name.toList.reverse with
    | nil => rfl
    | cons c rest =>
      have member : c ∈ name.toList := List.mem_reverse.mp (reversed ▸ List.mem_cons_self)
      simp [not_isBlank (isNameChar_of_mem named member)]
  rw [trimName, lasts, List.reverse_reverse, String.ofList_toList, ite_self]

theorem settle_of_text {e : Element} (filled : e.text? ≠ some "") : settle e = e := by
  obtain ⟨tag, attributes, text?, line, children⟩ := e
  cases text? with
  | none => rfl
  | some text =>
    have kept : text ≠ "" := fun same => filled (congrArg some same)
    simp [settle, kept]

/-- The text of an element that has just been opened. -/
theorem run_textItems (root? : Option Element) (e : Element) (opened : List Element)
    (bare : e.text? = none) (start : Nat) {text? : Option String} (filled : text? ≠ some "") :
    (⟨root?, e :: opened⟩ : Assembly).run lineAt (Mode.textItems start (text?.getD "")) =
      .ok ⟨root?, { e with text? := text? } :: opened⟩ := by
  obtain ⟨tag, attributes, unset, line, children⟩ := e
  cases bare
  cases text? with
  | none => rfl
  | some text =>
    have kept : text ≠ "" := fun same => filled (congrArg some same)
    rw [Option.getD_some, Mode.textItems, if_neg kept, run_single]
    simp [step, addText, Element.text]

/-- An element whose closing tag is read takes its place. -/
theorem run_closing {a b : Assembly} (e : Element) (named : isName e.tag)
    (filled : e.text? ≠ some "") (attached : a.attach e = .ok b) (offset : Nat) :
    (⟨a.root?, e :: a.opened⟩ : Assembly).run lineAt [⟨offset, .closing e.tag true⟩] = .ok b := by
  rw [run_single]
  simp only [step, close, trimName_of_isName named, if_true, settle_of_text filled, attached]

end Assembly

end Markup

namespace Element

variable {lineAt : Nat → Nat}

/-- A text from which an element is read, apart from its lines, wherever it stands. -/
def IsReadFrom (lineAt : Nat → Nat) (e : Element) (text : List Char) : Prop :=
  ∀ start offset, ∃ items next read,
    (Mode.textAt start).Leads offset text items (Mode.textAt next) ∧ read.unlined = e.unlined ∧
      ∀ a b : Assembly, a.attach read = .ok b → a.run lineAt items = .ok b

/-- A text from which children are read into the element that is open. -/
def AreReadFrom (lineAt : Nat → Nat) (children : List Element) (text : List Char) : Prop :=
  ∀ start offset, ∃ items next read,
    (Mode.textAt start).Leads offset text items (Mode.textAt next) ∧
      unlinedAll read = unlinedAll children ∧
      ∀ (root? : Option Element) (parent : Element) (opened : List Element),
        (⟨root?, parent :: opened⟩ : Assembly).run lineAt items =
          .ok ⟨root?, { parent with children := parent.children ++ read } :: opened⟩

theorem isReadFrom_single {e : Element} (writable : e.IsWritable) (textless : e.text? = none)
    (childless : e.children = []) :
    e.IsReadFrom lineAt ('<' :: (writeTag e.head ++ ['/', '>'])) := by
  intro start offset
  obtain ⟨head, -, -⟩ := writable
  obtain ⟨next, leads⟩ := Mode.leads_single head start offset
  refine ⟨_, next, Assembly.elementOf e.head (lineAt offset), leads, ?_, fun a b attached => ?_⟩
  · cases e
    simp_all [Assembly.elementOf, unlined, Element.head, unlinedAll]
  · rw [Assembly.run_single]
    simp only [Assembly.step, attached]

theorem areReadFrom_nil : AreReadFrom lineAt [] [] := fun start offset =>
  ⟨[], start, [], .nil _ _, rfl, fun root? parent opened => by
    cases parent
    rw [List.append_nil]
    rfl⟩

theorem areReadFrom_cons {e : Element} {rest : List Element} {text texts : List Char}
    (first : e.IsReadFrom lineAt text) (others : AreReadFrom lineAt rest texts) :
    AreReadFrom lineAt (e :: rest) (text ++ texts) := by
  intro start offset
  obtain ⟨items, next, read, leads, same, runs⟩ := first start offset
  obtain ⟨more, last, reads, leadsOn, sames, runsOn⟩ := others next (offset + byteSize text)
  refine ⟨items ++ more, last, read :: reads, leads.append leadsOn, ?_, fun root? parent opened => ?_⟩
  · simp [unlinedAll, same, sames]
  · rw [Assembly.run_append lineAt (runs _ ⟨root?, parent.withChild read :: opened⟩ rfl)]
    refine (runsOn root? _ opened).trans ?_
    simp [Element.withChild]

theorem Writes.begins {e : Element} {text : List Char} (writes : e.Writes text) :
    ∃ rest, text = '<' :: rest := by
  cases writes with
  | single => exact ⟨_, rfl⟩
  | whole => exact ⟨_, rfl⟩

theorem WritesAll.begins {children : List Element} {text : List Char}
    (writes : WritesAll children text) (rest : List Char) :
    ∃ cs, text ++ '<' :: rest = '<' :: cs := by
  cases writes with
  | nil => exact ⟨rest, rfl⟩
  | cons first _ =>
    obtain ⟨text, rfl⟩ := first.begins
    exact ⟨_, rfl⟩

theorem isReadFrom_whole {e : Element} {inside : List Char} (writable : e.IsWritable)
    (writes : WritesAll e.children inside) (children : AreReadFrom lineAt e.children inside) :
    e.IsReadFrom lineAt ('<' :: (writeTag e.head ++ ['>']) ++
      (escape e.text.toList ++ (inside ++ '<' :: '/' :: (e.tag.toList ++ ['>'])))) := by
  intro start offset
  obtain ⟨head, filled, -⟩ := writable
  obtain ⟨opened, opens⟩ := Mode.leads_opening head start offset
  let textStart := offset + byteSize ('<' :: (writeTag e.head ++ ['>']))
  let contentStart := textStart + byteSize (escape e.text.toList)
  obtain ⟨items, next, read, leads, same, runs⟩ := children opened contentStart
  obtain ⟨last, closes⟩ := Mode.leads_closing head.named next (contentStart + byteSize inside)
  obtain ⟨cs, begins⟩ := writes.begins ('/' :: (e.tag.toList ++ ['>']))
  have content := begins ▸ leads.append closes
  have all := opens.append (Mode.leads_escape opened e.text textStart content)
  rw [← begins] at all
  refine ⟨_, last, ⟨e.tag, e.attributes, e.text?, lineAt offset, read⟩, all, ?_, fun a b attached => ?_⟩
  · obtain ⟨tag, attributes, text?, line, children⟩ := e
    simp only [unlined, same]
  · let closing : Item := ⟨contentStart + byteSize inside, .closing e.tag true⟩
    calc a.run lineAt (⟨offset, .opening e.head⟩ ::
          (Mode.textItems opened e.text ++ (items ++ [closing])))
      _ = (⟨a.root?, Assembly.elementOf e.head (lineAt offset) :: a.opened⟩ : Assembly).run lineAt
            (Mode.textItems opened e.text ++ (items ++ [closing])) := rfl
      _ = (⟨a.root?, ⟨e.tag, e.attributes, e.text?, lineAt offset, []⟩ :: a.opened⟩ :
            Assembly).run lineAt (items ++ [closing]) :=
        Assembly.run_append lineAt
          (Assembly.run_textItems lineAt a.root? _ a.opened rfl opened filled) _
      _ = (⟨a.root?, ⟨e.tag, e.attributes, e.text?, lineAt offset, read⟩ :: a.opened⟩ :
            Assembly).run lineAt [closing] := Assembly.run_append lineAt (runs _ _ _) _
      _ = .ok b := Assembly.run_closing lineAt ⟨_, _, _, _, read⟩ head.named filled attached _

mutual

theorem isReadFrom_of_writes (lineAt : Nat → Nat) : ∀ {e : Element} {text : List Char},
    e.Writes text → e.IsWritable → e.IsReadFrom lineAt text
  | _, _, .single textless childless, writable => isReadFrom_single writable textless childless
  | _, _, .whole writes, writable => isReadFrom_whole writable writes
      (areReadFrom_of_writes lineAt writes (by cases writable; assumption))

theorem areReadFrom_of_writes (lineAt : Nat → Nat) :
    ∀ {children : List Element} {text : List Char}, WritesAll children text →
      (∀ child ∈ children, child.IsWritable) → AreReadFrom lineAt children text
  | _, _, .nil, _ => areReadFrom_nil
  | _, _, .cons first others, writable => areReadFrom_cons
      (isReadFrom_of_writes lineAt first (writable _ List.mem_cons_self))
      (areReadFrom_of_writes lineAt others fun child member => writable child (.tail _ member))

end

mutual

theorem exists_writes : ∀ e : Element, ∃ text, e.Writes text
  | ⟨tag, attributes, text?, line, children⟩ => by
    obtain ⟨inside, writes⟩ := exists_writesAll children
    exact ⟨_, .whole (e := ⟨tag, attributes, text?, line, children⟩) writes⟩

theorem exists_writesAll : ∀ children : List Element, ∃ text, WritesAll children text
  | [] => ⟨[], .nil⟩
  | e :: rest => by
    obtain ⟨text, first⟩ := exists_writes e
    obtain ⟨texts, others⟩ := exists_writesAll rest
    exact ⟨text ++ texts, .cons first others⟩

end

/-- Every tree can be written, and whatever it is written as reads back as that tree. -/
theorem readDocument_of_writes {e : Element} (writable : e.IsWritable) (origin : String) :
    (∃ source : String, e.Writes source.toList) ∧
      ∀ source : String, e.Writes source.toList →
        (readDocument source origin).map unlined = .ok e.unlined := by
  constructor
  · obtain ⟨text, writes⟩ := exists_writes e
    exact ⟨String.ofList text, by rwa [String.toList_ofList]⟩
  intro source writes
  obtain ⟨rest, begins⟩ := writes.begins
  obtain ⟨items, next, read, leads, same, runs⟩ :=
    isReadFrom_of_writes (fun offset => (Position.ofOffset source offset).line) writes writable 0 0
  have scan : Scan.ofString source = ⟨items, none⟩ := by
    have unmarked : withoutMark source.toList = source.toList := by
      rw [begins]
      rfl
    have scanned := leads []
    rw [List.append_nil] at scanned
    rw [Scan.ofString, unmarked, scanned]
    simp [Scan.after, Mode.scan, Mode.finish, Mode.textAt, Mode.endText]
  have assembled := runs Assembly.empty ⟨some read, []⟩ rfl
  have tree : readTree source = .ok read := by
    simp only [readTree, scan, assembled]
    rfl
  rw [readDocument, tree]
  exact congrArg Except.ok same

/-- An element with marks in its text and its attribute, and with two bare children. -/
def marked : Element :=
  ⟨"a", [("k", "<\"")], some " x&", 7, [⟨"b", [], none, 8, []⟩, ⟨"b", [], none, 9, []⟩]⟩

theorem marked_isWritable : marked.IsWritable := by
  have bare : ∀ child ∈ marked.children, child.IsWritable := by
    intro child member
    simp only [marked, List.mem_cons, List.not_mem_nil, or_false] at member
    rcases member with rfl | rfl <;>
      exact .intro ⟨by decide, by simp [head], by simp [head]⟩ (by simp) (by simp)
  exact .intro ⟨by decide, by decide, by decide⟩ (by simp [marked]) bare

theorem marked_writes :
    marked.Writes "<a k=\"&lt;&quot;\"> x&amp;<b/><b></b></a>".toList := by
  have short := Writes.single (e := ⟨"b", [], none, 8, []⟩) rfl rfl
  have long := Writes.whole (e := ⟨"b", [], none, 9, []⟩) .nil
  have all := Writes.whole (e := marked) (.cons short (.cons long .nil))
  exact all

theorem readDocument_marked : marked.IsWritable ∧
    marked.Writes "<a k=\"&lt;&quot;\"> x&amp;<b/><b></b></a>".toList ∧
    (readDocument "<a k=\"&lt;&quot;\"> x&amp;<b/><b></b></a>" "skin.xml").map unlined =
      .ok marked.unlined :=
  ⟨marked_isWritable, marked_writes,
    (readDocument_of_writes marked_isWritable "skin.xml").2 _ marked_writes⟩

end Element
end Skinning
