import Skinning.Screen.State

/-! The kinds of components that a host offers to fragments. -/
namespace Skinning

structure Components where
  /-- The arguments that a converter reports when it is made with some. -/
  converter? : String → Option (String → String)
  renderer? : String → Option Component
  addon? : String → Option Component
  /-- The hook that the code of an applet makes, or why there is none. -/
  compile : String → Except String String

namespace Components

def noApplets (_ : String) : Except String String := .error "applets are not supported"

def none : Components := ⟨fun _ => .none, fun _ => .none, fun _ => .none, noApplets⟩

end Components
end Skinning
