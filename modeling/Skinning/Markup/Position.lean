/-! Places in a source text. Lines are counted from 1 and columns, in bytes, from 0; an
offset past the end stands for the end. -/
namespace Skinning.Markup

structure Position where
  line : Nat
  column : Nat
  deriving DecidableEq, Repr

def byteSize : List Char → Nat
  | [] => 0
  | c :: rest => c.utf8Size + byteSize rest

theorem byteSize_append (xs ys : List Char) : byteSize (xs ++ ys) = byteSize xs + byteSize ys := by
  induction xs with
  | nil => simp [byteSize]
  | cons c rest ih => simp [byteSize, ih, Nat.add_assoc]

theorem byteSize_toList (s : String) : byteSize s.toList = s.utf8ByteSize := by
  have chars (cs : List Char) : byteSize cs = (String.ofList cs).utf8ByteSize := by
    induction cs with
    | nil => rfl
    | cons c rest ih =>
      rw [String.ofList_cons, String.utf8ByteSize_append, String.utf8ByteSize_singleton, ← ih]
      rfl
  rw [chars, String.ofList_toList]

theorem byteSize_of_narrow {cs : List Char} (narrow : ∀ c ∈ cs, c.utf8Size = 1) :
    byteSize cs = cs.length := by
  induction cs with
  | nil => rfl
  | cons c rest ih =>
    obtain ⟨first, others⟩ := List.forall_mem_cons.mp narrow
    rw [byteSize, first, ih others, List.length_cons, Nat.add_comm]

def Position.advance (p : Position) (bytes : Nat) : List Char → Position
  | [] => p
  | c :: rest =>
    if bytes = 0 then p
    else if bytes < c.utf8Size then { p with column := p.column + bytes }
    else
      let next : Position :=
        if c = '\n' then ⟨p.line + 1, 0⟩ else ⟨p.line, p.column + c.utf8Size⟩
      next.advance (bytes - c.utf8Size) rest

def Position.ofOffset (source : String) (offset : Nat) : Position :=
  Position.advance ⟨1, 0⟩ offset source.toList

end Skinning.Markup
