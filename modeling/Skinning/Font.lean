/-! Fonts as skins name them. -/
namespace Skinning

structure FontMetrics where
  lineHeight : Int
  charWidth : Int
  deriving DecidableEq, Repr

structure FontAlias where
  family : String
  size : Int
  height : Int
  width : Int
  deriving DecidableEq, Repr

def FontAlias.metrics (a : FontAlias) : FontMetrics := ⟨a.height, a.width⟩

structure Font where
  family : String
  size : Int
  deriving DecidableEq, Repr

end Skinning
