/-! Blank characters and trimming. A character is blank when it has the Unicode
property White_Space; trimming removes blanks from both ends and nothing else. -/
namespace Skinning.Text

def blankRanges : List (Nat × Nat) := [
  (0x09,0x0D), (0x20,0x20), (0x85,0x85), (0xA0,0xA0), (0x1680,0x1680),
  (0x2000,0x200A), (0x2028,0x2029), (0x202F,0x202F), (0x205F,0x205F), (0x3000,0x3000)]

def isBlank (c : Char) : Bool :=
  blankRanges.any fun range => range.1 ≤ c.toNat && c.toNat ≤ range.2

def trimLeft (cs : List Char) : List Char := cs.dropWhile isBlank

def trimRight (cs : List Char) : List Char := (cs.reverse.dropWhile isBlank).reverse

def trimChars (cs : List Char) : List Char := trimRight (trimLeft cs)

def trim (s : String) : String := String.ofList (trimChars s.toList)

theorem trimChars_of_unblank {cs : List Char} (unblank : ∀ c ∈ cs, isBlank c = false) :
    trimChars cs = cs := by
  have kept (cs : List Char) (unblank : ∀ c ∈ cs, isBlank c = false) :
      cs.dropWhile isBlank = cs := by
    cases cs with
    | nil => rfl
    | cons c rest => exact List.dropWhile_cons_of_neg (by simp [unblank c List.mem_cons_self])
  rw [trimChars, trimLeft, kept _ unblank, trimRight,
    kept _ fun c member => unblank c (List.mem_reverse.mp member), List.reverse_reverse]

theorem trimChars_of_blank {cs : List Char} (blank : ∀ c ∈ cs, isBlank c) : trimChars cs = [] := by
  have nothing : trimLeft cs = [] := by
    induction cs with
    | nil => rfl
    | cons c rest ih =>
      rw [trimLeft, List.dropWhile_cons_of_pos (blank c List.mem_cons_self)]
      exact ih fun other member => blank other (List.mem_cons_of_mem _ member)
  rw [trimChars, nothing]
  rfl

end Skinning.Text
