import Skinning.Markup.Document
import Skinning.Proofs.SourceLines
import Skinning.Proofs.SourcePieces
import Skinning.Proofs.WrittenDocuments

/-! The lines of elements. The elements of a tree, from the root on and each before its children,
are the start tags of its source one after the other. Their lines are found in one pass; after a
byte order mark the places that are asked for lie before the tags by the size of the mark. -/
namespace Skinning
open Markup

namespace Element

mutual

/-- An element and all below it, each before its children. -/
def preorder : Element → List Element
  | ⟨tag, attributes, text?, line, children⟩ =>
    ⟨tag, attributes, text?, line, children⟩ :: preorderAll children

def preorderAll : List Element → List Element
  | [] => []
  | e :: rest => e.preorder ++ preorderAll rest

end

theorem preorderAll_append (xs ys : List Element) :
    preorderAll (xs ++ ys) = preorderAll xs ++ preorderAll ys := by
  induction xs with
  | nil => rfl
  | cons e rest ih => simp only [List.cons_append, preorderAll, ih, List.append_assoc]

/-- What start tags have given to an element and all below it. -/
def listed (e : Element) : List (Tag × Nat) := e.preorder.map fun e => (e.head, e.line)

theorem listed_text (e : Element) (text? : Option String) :
    { e with text? := text? }.listed = e.listed := by
  cases e
  rfl

theorem listed_withChild (parent e : Element) :
    (parent.withChild e).listed = parent.listed ++ e.listed := by
  cases parent
  simp [listed, withChild, preorder, preorderAll_append, preorderAll, Element.head]

end Element

namespace Markup

namespace Assembly

variable {lineAt : Nat → Nat} {a b : Assembly}

/-- What the start tags have given that were read, in their order. -/
def listed (a : Assembly) : List (Tag × Nat) :=
  (a.root?.toList ++ a.opened.reverse).flatMap Element.listed

theorem listed_cons (root? : Option Element) (e : Element) (opened : List Element) :
    listed ⟨root?, e :: opened⟩ = listed ⟨root?, opened⟩ ++ e.listed := by
  simp [listed]

theorem attach_listed {e : Element} (attached : a.attach e = .ok b) :
    b.listed = a.listed ++ e.listed := by
  obtain ⟨root?, opened⟩ := a
  unfold attach at attached
  split at attached
  next parent rest opens =>
    cases attached
    dsimp only at opens
    subst opens
    simp only [listed_cons, Element.listed_withChild, List.append_assoc]
  next opens rootless =>
    cases attached
    dsimp only at opens rootless
    subst opens rootless
    simp [listed]
  next => cases attached

theorem addText_listed (a : Assembly) (text : String) : (a.addText text).listed = a.listed := by
  obtain ⟨root?, opened⟩ := a
  cases opened with
  | nil => rfl
  | cons e rest => simp only [addText, listed_cons, Element.listed_text]

theorem close_listed {offset : Nat} {name : String} {complete : Bool}
    (closed : a.close offset name complete = .ok b) : b.listed = a.listed := by
  obtain ⟨root?, opened⟩ := a
  simp only [close] at closed
  split at closed
  · cases closed
  next e rest =>
    split at closed
    · split at closed
      next after attached =>
        cases closed
        rw [attach_listed attached, listed_cons, settle, Element.listed_text]
      · cases closed
    · cases closed

/-- Each item adds what it says of a start tag. -/
theorem step_listed {item : Item} (stepped : a.step lineAt item = .ok b) :
    b.listed = a.listed ++
      item.heading?.toList.map fun heading => (heading.2, lineAt heading.1) := by
  obtain ⟨offset, event⟩ := item
  have single (tag : Tag) : (elementOf tag (lineAt offset)).listed = [(tag, lineAt offset)] := rfl
  cases event with
  | opening tag =>
    cases stepped
    rw [listed_cons, single]
    rfl
  | single tag =>
    simp only [step] at stepped
    split at stepped
    next after attached =>
      cases stepped
      rw [attach_listed attached, single]
      rfl
    · cases stepped
  | closing name complete =>
    rw [close_listed stepped]
    exact (List.append_nil _).symm
  | text text =>
    cases stepped
    rw [addText_listed]
    exact (List.append_nil _).symm

theorem run_listed {items : List Item} (ran : a.run lineAt items = .ok b) :
    b.listed = a.listed ++
      (items.filterMap Item.heading?).map fun heading => (heading.2, lineAt heading.1) := by
  induction items generalizing a with
  | nil =>
    cases ran
    exact (List.append_nil _).symm
  | cons item rest ih =>
    cases stepped : a.step lineAt item with
    | error fault =>
      rw [run, stepped] at ran
      cases ran
    | ok next =>
      rw [run, stepped] at ran
      rw [ih ran, step_listed stepped, List.append_assoc, List.filterMap_cons]
      cases item.heading? <;> rfl

theorem finish_listed {size : Nat} {root : Element} (finished : a.finish size = .ok root) :
    root.listed = a.listed := by
  obtain ⟨root?, opened⟩ := a
  simp only [finish] at finished
  split at finished <;> cases finished
  simp [listed]

end Assembly

/-- The elements of a tree are what the items of its source say. -/
theorem readTree_listed {source : String} {root : Element} (reads : readTree source = .ok root) :
    (Scan.ofString source).fault? = none ∧
      root.listed = ((Scan.ofString source).items.filterMap Item.heading?).map fun heading =>
        (heading.2, (Position.ofOffset source heading.1).line) := by
  simp only [readTree] at reads
  cases ran : Assembly.empty.run (fun offset => (Position.ofOffset source offset).line)
    (Scan.ofString source).items with
  | error fault =>
    rw [ran] at reads
    cases reads
  | ok assembly =>
    rw [ran] at reads
    cases faulty : (Scan.ofString source).fault? with
    | some fault =>
      rw [faulty] at reads
      cases reads
    | none =>
      rw [faulty] at reads
      exact ⟨rfl, (Assembly.finish_listed reads).trans (Assembly.run_listed ran)⟩

/-- The places of start tags follow each other. -/
theorem startTags_sorted (source : String) :
    (startTags source).Pairwise fun p q => p.offset ≤ q.offset :=
  (Piece.split_sorted _ _).filter _

/-- The places that the lines are asked for lie before the tags by the size of a mark. -/
theorem readTree_startTags {source : String} {root : Element} (reads : readTree source = .ok root) :
    root.preorder.map (fun e => Except.ok e.head) =
        (startTags source).map (fun tag => readStartTag tag.text) ∧
      root.preorder.map Element.line = (startTags source).map fun tag =>
        (Position.ofOffset source (tag.offset - markSize source)).line := by
  obtain ⟨sound, listed⟩ := readTree_listed reads
  have tags := scan_startTags sound
  generalize (Scan.ofString source).items.filterMap Item.heading? = headings at listed tags
  let lineOf (offset : Nat) : Nat := (Position.ofOffset source (offset - markSize source)).line
  constructor
  · calc root.preorder.map (fun e => Except.ok e.head)
        = root.listed.map (fun pair => Except.ok pair.1) := by simp [Element.listed]
      _ = headings.map (fun heading => Except.ok heading.2) := by simp [listed]
      _ = (startTags source).map fun tag => readStartTag tag.text := by
        simpa [Function.comp_def] using congrArg (List.map Prod.snd) tags
  · calc root.preorder.map Element.line
        = root.listed.map Prod.snd := by simp [Element.listed]
      _ = headings.map (fun heading => lineOf (heading.1 + markSize source)) := by
        simp [listed, lineOf]
      _ = (startTags source).map fun tag => lineOf tag.offset := by
        simpa [Function.comp_def] using congrArg (List.map fun pair => lineOf pair.1) tags

/-- The tree of a source lists its start tags, each with the line in which its `<` stands. -/
def FollowsLines (source : String) (root : Element) : Prop :=
  root.preorder.map (fun e => Except.ok e.head) =
      (startTags source).map (fun tag => readStartTag tag.text) ∧
    root.preorder.map Element.line =
      (startTags source).map (fun tag => (Position.ofOffset source tag.offset).line) ∧
    (root.preorder.map Element.line).Pairwise (· ≤ ·)

/-- The elements of a tree are the start tags of its source, and a cursor that is asked for their
places in turn finds their lines. The lines never go back, and they are those of the tags unless a
mark stands in front and a newline among the last bytes before a tag, as many as the mark has. -/
theorem readDocument_startTags {source origin : String} {root : Element}
    (reads : readDocument source origin = .ok root) :
    (∀ tag ∈ startTags source, tag.before ++ tag.text <+: source.toList) ∧
      root.preorder.map (fun e => Except.ok e.head) =
        (startTags source).map (fun tag => readStartTag tag.text) ∧
      root.preorder.map Element.line = LineCursor.initial.lines source
        ((startTags source).map fun tag => tag.offset - markSize source) ∧
      (root.preorder.map Element.line).Pairwise (· ≤ ·) ∧
      (FollowsLines source root ↔
        ∀ tag ∈ startTags source, newline ∉ lastBytes source (markSize source) tag.offset) := by
  have tree : readTree source = .ok root := by
    unfold readDocument at reads
    split at reads
    next read => rw [read, Except.ok.inj reads]
    · cases reads
  obtain ⟨heads, lines⟩ := readTree_startTags tree
  have places : ((startTags source).map fun tag => tag.offset - markSize source).Pairwise (· ≤ ·) :=
    (startTags_sorted source).map _ fun p q le => Nat.sub_le_sub_right le (markSize source)
  have asked : root.preorder.map Element.line = LineCursor.initial.lines source
      ((startTags source).map fun tag => tag.offset - markSize source) := by
    rw [(LineCursor.stands_initial source).lines (fun offset _ => Nat.zero_le offset) places, lines,
      List.map_map]
    rfl
  have sorted : (root.preorder.map Element.line).Pairwise (· ≤ ·) := by
    rw [lines]
    refine (startTags_sorted source).map _ fun p q le => ?_
    rw [Position.ofOffset_line, Position.ofOffset_line]
    exact Nat.add_le_add_left (newlinesBefore_mono source (Nat.sub_le_sub_right le _)) 1
  refine ⟨fun tag member => (Piece.split_stands (List.mem_filter.mp member).1).2, heads, asked,
    sorted, fun ⟨_, counted, _⟩ tag member => ?_, fun clear => ⟨heads, ?_, sorted⟩⟩
  · rw [lines] at counted
    exact (ofOffset_line_eq_iff source _ _).mp (List.map_inj_left.mp counted tag member)
  · rw [lines]
    exact List.map_congr_left fun tag member =>
      (ofOffset_line_eq_iff source _ _).mpr (clear tag member)

/-! A document with a mark, with and without blanks before a tag. -/

def indented : String := "\uFEFF<skin>\n   <a/></skin>"

def indentedRoot : Element := ⟨"skin", [], some "\n   ", 1, [⟨"a", [], none, 2, []⟩]⟩

theorem readDocument_indented :
    readDocument indented "skin.xml" = .ok indentedRoot ∧ FollowsLines indented indentedRoot := by
  have reads : readDocument indented "skin.xml" = .ok indentedRoot := rfl
  exact ⟨reads, (readDocument_startTags reads).2.2.2.2.mpr (by decide)⟩

/-- The newline before the tag is not counted. -/
theorem marked_not_followsLines :
    readDocument "\uFEFF\n<a/>" "skin.xml" = .ok ⟨"a", [], none, 1, []⟩ ∧
      ¬ FollowsLines "\uFEFF\n<a/>" ⟨"a", [], none, 1, []⟩ := by
  refine ⟨rfl, fun follows => ?_⟩
  exact absurd follows.2.1 (by decide)

end Markup
end Skinning
