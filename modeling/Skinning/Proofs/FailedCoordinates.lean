import Mathlib.Data.List.Forall2
import Skinning.Proofs.Transposition

/-! A coordinate that cannot be evaluated counts as 0 and does nothing else. A request is mended by
`*` in place of each coordinate that fails and by `*,*` in place of each text that is not a pair.
What is given to it is given to the mended request too, and there is one report for each
replacement. -/
namespace Skinning

/-- What is replaced in a request: a coordinate, as read at its site, or a whole pair. -/
inductive Replacement where
  | coordinate (site : Coordinate.Site) (text : String)
  | pair (text : String)

/-- The report that belongs to a replacement. -/
def Replacement.Explains : Replacement → Coordinate.Fault → Prop
  | .coordinate site text, fault => site.evaluate text = .error fault
  | .pair text, fault => fault = Space.badPair text

/-- What is read from a text and from the mended text: the same value, with one report for each
replacement and with none. -/
structure Mends {α : Type} (read mended : α × List Coordinate.Fault)
    (replaced : List Replacement) : Prop where
  value : mended.1 = read.1
  silent : mended.2 = []
  account : List.Forall₂ Replacement.Explains replaced read.2

theorem Mends.map {α β : Type} {read mended : α × List Coordinate.Fault}
    {replaced : List Replacement} (mends : Mends read mended replaced) (f : α → β) :
    Mends (f read.1, read.2) (f mended.1, mended.2) replaced :=
  ⟨congrArg f mends.value, mends.silent, mends.account⟩

/-- What is given out, as it is read from a request. -/
def Placed.reading (placed : Placed) : (Rect × Space) × List Coordinate.Fault :=
  ((placed.rect, placed.space), placed.faults)

namespace Coordinate

/-- Pixels at a site, where `*` asks for nothing. -/
def Site.pixels (site : Site) (text : String) : Int32 × List Fault :=
  let (value, faults) := site.evaluateOrZero text
  (value.getD 0, faults)

/-- The pixels of a pair at two sites. -/
def pairPixels (first second : Site) (text : String) : (Int32 × Int32) × List Fault :=
  match Pair.split text with
  | .error _ => ((0, 0), [Space.badPair text])
  | .ok (left, right) =>
    let (x, faults) := first.pixels left
    let (y, more) := second.pixels right
    ((x, y), faults ++ more)

/-- Half of a pair, or `*` if it cannot be evaluated. -/
def Site.mend (site : Site) (half : String) : String × List Replacement :=
  match site.evaluate (Text.trim half) with
  | .ok _ => (half, [])
  | .error _ => ("*", [.coordinate site (Text.trim half)])

/-- A pair for two sites, with both halves mended. -/
def mendPair (first second : Site) (text : String) : String × List Replacement :=
  match Text.split ',' text with
  | [left, right] =>
    let (left, replaced) := first.mend left
    let (right, more) := second.mend right
    (left ++ "," ++ right, replaced ++ more)
  | _ => ("*,*", [.pair text])

theorem uncut_mend (site : Site) {half : String} (uncut : ',' ∉ half.toList) :
    ',' ∉ (site.mend half).1.toList := by
  unfold Site.mend
  split
  · exact uncut
  · simp

theorem comma_mendPair (first second : Site) (text : String) :
    ',' ∈ (mendPair first second text).1.toList := by
  unfold mendPair
  split <;> simp

theorem pixels_mend (site : Site) (half : String) :
    Mends (site.pixels (Text.trim half)) (site.pixels (Text.trim (site.mend half).1))
      (site.mend half).2 := by
  cases read : site.evaluate (Text.trim half) with
  | ok value =>
    have mended : site.mend half = (half, []) := by simp only [Site.mend, read]
    have pixels : site.pixels (Text.trim half) = (Int32.ofInt (value.getD 0), []) := by
      simp only [Site.pixels, Site.evaluateOrZero, read]
    rw [mended, pixels]
    exact ⟨rfl, rfl, .nil⟩
  | error fault =>
    have mended : site.mend half = ("*", [.coordinate site (Text.trim half)]) := by
      simp only [Site.mend, read]
    have pixels : site.pixels (Text.trim half) = (0, [fault]) := by
      simp only [Site.pixels, Site.evaluateOrZero, read, Option.getD_some]
      rfl
    have star : site.pixels (Text.trim "*") = (0, []) := rfl
    rw [mended, pixels, star]
    exact ⟨rfl, rfl, .cons read .nil⟩

theorem pairPixels_mend (first second : Site) (text : String) :
    Mends (pairPixels first second text) (pairPixels first second (mendPair first second text).1)
      (mendPair first second text).2 := by
  unfold mendPair
  split
  next left right cut =>
    have uncut (piece : String) (member : piece ∈ [left, right]) : ',' ∉ piece.toList :=
      Text.uncut_of_mem_split (cut ▸ member)
    have joined := Pair.split_join
      ⟨uncut_mend first (uncut left (by simp)), uncut_mend second (uncut right (by simp))⟩
    have x := pixels_mend first left
    have y := pixels_mend second right
    simp only [pairPixels, Pair.split, cut, joined]
    refine ⟨?_, ?_, ?_⟩
    · simp only [x.value, y.value]
    · simp only [x.silent, y.silent, List.append_nil]
    · exact List.rel_append x.account y.account
  next whole =>
    have stars : pairPixels first second "*,*" = ((0, 0), []) := rfl
    rw [stars, pairPixels, Pair.split_of_not_cut whole]
    exact ⟨rfl, rfl, .cons rfl .nil⟩

end Coordinate

namespace Space

open Coordinate (Site pairPixels mendPair pairPixels_mend)

/-- Sizes are read against what remains. -/
def widthSite (s : Space) (font : Option FontMetrics) : Site :=
  ⟨s.remaining.width, 0, font, s.scale.x, s.factor⟩

def heightSite (s : Space) (font : Option FontMetrics) : Site :=
  ⟨s.remaining.height, 0, font, s.scale.y, s.factor⟩

/-- Positions are read against the whole space, for an object of a size. -/
def leftSite (s : Space) (size : Size) (font : Option FontMetrics) : Site :=
  ⟨s.full.width, size.width, font, s.scale.x, s.factor⟩

def topSite (s : Space) (size : Size) (font : Option FontMetrics) : Site :=
  ⟨s.full.height, size.height, font, s.scale.y, s.factor⟩

def mendSize (s : Space) (font : Option FontMetrics) : Option String → Option String × List Replacement
  | none => (none, [])
  | some text =>
    let (text, replaced) := mendPair (s.widthSite font) (s.heightSite font) text
    (some text, replaced)

/-- Nothing is replaced in a request for all that remains, and only the size in one for an edge. A
free position is read with the size that the request comes to. -/
def mend (s : Space) (request : SpaceRequest) : SpaceRequest × List Replacement :=
  let font := request.font
  match Anchor.ofString request.position with
  | .fill => (request, [])
  | .free position =>
    let size := (s.evaluateSize request.size font).1
    let (asked, replaced) := s.mendSize font request.size
    let (position, more) := mendPair (s.leftSite size font) (s.topSite size font) position
    (⟨position, asked, font⟩, replaced ++ more)
  | _ =>
    let (asked, replaced) := s.mendSize font request.size
    ({ request with size := asked }, replaced)

variable (s : Space) (font : Option FontMetrics)

theorem coordinate_eq_pixels (ratio : Ratio) (extent objectSize : Int32) (text : String) :
    s.coordinate ratio extent objectSize font text =
      Site.pixels ⟨extent, objectSize, font, ratio, s.factor⟩ text := by
  simp only [coordinate, Site.pixels]

theorem evaluateSize_eq_pairPixels (text : String) :
    s.evaluateSize (some text) font =
      let read := pairPixels (s.widthSite font) (s.heightSite font) text
      (⟨read.1.1, read.1.2⟩, read.2) := by
  simp only [evaluateSize, pairPixels, coordinate_eq_pixels, widthSite, heightSite]
  cases Pair.split text with
  | error => rfl
  | ok halves => simp only

theorem evaluatePosition_eq_pairPixels (text : String) (size : Size) :
    s.evaluatePosition text size font =
      let read := pairPixels (s.leftSite size font) (s.topSite size font) text
      (⟨s.full.x + read.1.1, s.full.y + read.1.2⟩, read.2) := by
  simp only [evaluatePosition, pairPixels, coordinate_eq_pixels, leftSite, topSite]
  cases Pair.split text with
  | error => simp only [Rect.origin, Int32.add_zero]
  | ok halves => simp only

theorem evaluateSize_mend (size : Option String) :
    Mends (s.evaluateSize size font) (s.evaluateSize (s.mendSize font size).1 font)
      (s.mendSize font size).2 := by
  cases size with
  | none => exact ⟨rfl, rfl, .nil⟩
  | some text =>
    simp only [mendSize, evaluateSize_eq_pairPixels]
    exact (pairPixels_mend _ _ text).map fun read => Size.mk read.1 read.2

theorem evaluatePosition_mend (text : String) (size : Size) :
    let mended := mendPair (s.leftSite size font) (s.topSite size font) text
    Mends (s.evaluatePosition text size font) (s.evaluatePosition mended.1 size font) mended.2 := by
  simp only [evaluatePosition_eq_pairPixels]
  exact (pairPixels_mend _ _ text).map fun read => Point.mk (s.full.x + read.1) (s.full.y + read.2)

variable (request : SpaceRequest)

theorem mend_of_fill (fills : Anchor.ofString request.position = .fill) :
    s.mend request = (request, []) := by
  rw [mend, fills]

theorem mend_of_edge {edge : Anchor} (anchored : Anchor.ofString request.position = edge)
    (isEdge : edge.IsEdge) :
    let asked := s.mendSize request.font request.size
    s.mend request = ({ request with size := asked.1 }, asked.2) := by
  rw [mend, anchored]
  cases edge with
  | fill | free => exact isEdge.elim
  | _ => rfl

theorem mend_of_free {position : String}
    (anchored : Anchor.ofString request.position = .free position) :
    let size := (s.evaluateSize request.size request.font).1
    let asked := s.mendSize request.font request.size
    let mended :=
      mendPair (s.leftSite size request.font) (s.topSite size request.font) position
    s.mend request = (⟨mended.1, asked.1, request.font⟩, asked.2 ++ mended.2) := by
  rw [mend, anchored]

/-- A mended request is given the same, with the same space after it. -/
theorem place_mend :
    Mends (s.place request).reading (s.place (s.mend request).1).reading (s.mend request).2 := by
  obtain ⟨size, sizeSilent, sizeAccount⟩ := s.evaluateSize_mend request.font request.size
  rcases request.anchor_cases with ⟨-, fills⟩ | ⟨-, isEdge⟩ | ⟨-, isFree⟩
  · rw [s.mend_of_fill request fills, place_of_fill fills]
    exact ⟨rfl, rfl, .nil⟩
  · have mended := @place_of_edge s { request with size := (s.mendSize request.font request.size).1 }
      _ rfl isEdge
    rw [s.mend_of_edge request rfl isEdge, place_of_edge rfl isEdge, mended]
    dsimp only [Placed.reading]
    rw [size, sizeSilent]
    exact ⟨rfl, rfl, sizeAccount⟩
  · obtain ⟨point, pointSilent, pointAccount⟩ := s.evaluatePosition_mend request.font
      request.position (s.evaluateSize request.size request.font).1
    have comma : ',' ∈ (s.mend request).1.position.toList := by
      rw [s.mend_of_free request isFree]
      exact Coordinate.comma_mendPair _ _ _
    have placed := @place_of_free s _ _ (Anchor.ofString_of_comma comma)
    rw [s.mend_of_free request isFree] at placed ⊢
    rw [place_of_free isFree, placed]
    simp only [Placed.reading, size, sizeSilent, point, pointSilent]
    exact ⟨rfl, rfl, List.rel_append sizeAccount pointAccount⟩

end Space

/-- Failed coordinates count as 0 and do nothing else. In any run, a request has the effects of the
mended request on the open spaces and on the answers. The mended request reports nothing, and the
request adds one report for each replacement to those that are there. -/
theorem SpaceRun.failed_coordinates_count_as_zero {run : SpaceRun} {number : Nat} {s : Space}
    (found : run.spaces[number]? = some s) (request : SpaceRequest) :
    let mended := (s.mend request).1
    let replaced := (s.mend request).2
    let after := run.step (number, .place request)
    let other := run.step (number, .place mended)
    other.spaces = after.spaces ∧ other.answers = after.answers ∧ other.faults = run.faults ∧
      (∃ reports, after.faults = run.faults ++ reports ∧
        List.Forall₂ Replacement.Explains replaced reports) ∧
      (request.position = "fill" → mended = request ∧ replaced = []) ∧
      (request.takesRoom → mended.position = request.position) := by
  obtain ⟨same, silent, account⟩ := s.place_mend request
  obtain ⟨rect, space⟩ := Prod.ext_iff.mp same
  dsimp only [Placed.reading] at rect space silent account
  simp only [step, found, Space.call, rect, space, silent, List.append_nil]
  refine ⟨trivial, trivial, trivial, ⟨_, rfl, account⟩, ?_, ?_⟩
  · intro fills
    have anchored : Anchor.ofString request.position = .fill := by rw [fills]; rfl
    rw [s.mend_of_fill request anchored]
    exact ⟨rfl, rfl⟩
  · intro takes
    rcases request.anchor_cases with ⟨-, fills⟩ | ⟨-, isEdge⟩ | ⟨overlaps, -⟩
    · rw [s.mend_of_fill request fills]
    · rw [s.mend_of_edge request rfl isEdge]
    · simp [overlaps] at takes

/-- A position that is not a pair, and a size of which one half cannot be read. -/
theorem SpaceRun.failed_coordinates_count_as_zero_twice :
    let s : Space := .ofRect .sequential ⟨10, 0, 100, 80⟩ .identity 1
    let request : SpaceRequest := ⟨"here", some "q, 20", none⟩
    let mended : SpaceRequest := ⟨"*,*", some "*, 20", none⟩
    (ofSpace s).spaces[0]? = some s ∧ (s.mend request).1 = mended ∧ (s.mend request).2.length = 2 ∧
      ((ofSpace s).step (0, .place request)).answers = [.rect ⟨10, 0, 0, 20⟩] ∧
      ((ofSpace s).step (0, .place mended)).answers =
        ((ofSpace s).step (0, .place request)).answers := by
  intro s request mended
  have mends : (s.mend request).1 = mended := by decide +kernel
  obtain ⟨-, same, -⟩ :=
    @failed_coordinates_count_as_zero (ofSpace s) 0 s rfl request
  rw [mends] at same
  exact ⟨rfl, mends, by decide +kernel, by decide +kernel, same⟩

end Skinning
