import Skinning.Registry.Declaration

/-! Merging blocks into a store. The declarations of a block are taken one after the
other; the first faulty one ends the merge, and what was declared before it stays. -/
namespace Skinning

structure Merged where
  store : Store
  fault? : Option RegistryFault
  notices : Notices

namespace Store

def mergeDeclarations (site : BlockSite) : Store → List Declaration → Merged
  | s, [] => ⟨s, none, []⟩
  | s, declaration :: rest =>
    match (declaration.read site s).run.run [] with
    | (.error fault, notices) => ⟨s, some fault, notices⟩
    | (.ok entries, notices) =>
      let merged := mergeDeclarations site (entries.foldl set s) rest
      { merged with notices := notices ++ merged.notices }

def mergeBlock (s : Store) (site : BlockSite) (block : Element) : Merged :=
  match Declaration.ofBlock block with
  | .error fault => ⟨s, some fault, []⟩
  | .ok declarations => s.mergeDeclarations site declarations

end Store
end Skinning
