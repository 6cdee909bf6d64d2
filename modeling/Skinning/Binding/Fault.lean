import Skinning.Text.Quoted
import Skinning.Widget.Fault

/-! Why a node of a fragment cannot be bound. The node is skipped. -/
namespace Skinning

inductive BindingFault where
  | noTarget
  | missingComponent (name screen : String)
  | missingRelatedScreen (path screen : String)
  | missingSource (name screen : String)
  | missingRenderAttribute (source : String)
  | unknownRenderer (kind : String)
  | unknownConverter (kind : String)
  | converterWithoutType
  | unknownAddon (kind : String)
  | missingConnection (kind : String)
  | appletCompile (error : String)
  | unknownAppletTrigger (kind : String)
  | unknownFragment (name : String)
  | panelCycle (name : String)
  /-- A panel that has nodes of its own and no place for them. -/
  | panelSpace (position size : Option String)
  | ofAttribute (fault : AttributeFault)
  deriving Repr

def optionText : Option String → String
  | some text => "Some(" ++ Text.quoted text ++ ")"
  | none => "None"

def BindingFault.message : BindingFault → String
  | .noTarget => "The widget has no name, no source and no addon type specified"
  | .missingComponent name screen =>
    "Component with name '" ++ name ++ "' was not found in skin of screen '" ++ screen ++ "'"
  | .missingRelatedScreen path screen =>
    "Specified related screen '" ++ path ++ "' was not found in screen '" ++ screen ++ "'"
  | .missingSource name screen =>
    "The source '" ++ name ++ "' was not found in screen '" ++ screen ++ "'"
  | .missingRenderAttribute source =>
    "For source '" ++ source ++ "' a renderer must be defined with a 'render=' attribute"
  | .unknownRenderer kind => "Renderer '" ++ kind ++ "' not found"
  | .unknownConverter kind => "Converter '" ++ kind ++ "' not found"
  | .converterWithoutType => "The 'convert' tag needs a 'type' attribute"
  | .unknownAddon kind => "GUI Addon '" ++ kind ++ "' not found"
  | .missingConnection kind =>
    "The widget is from addon type '" ++ kind ++ "', but no connection is specified"
  | .appletCompile error => "Applet failed to compile: '" ++ error ++ "'"
  | .unknownAppletTrigger kind => "Applet type '" ++ kind ++ "' is unknown"
  | .unknownFragment name => "Unable to find screen '" ++ name ++ "' referred to by a panel"
  | .panelCycle name => "Panel refers to screen '" ++ name ++ "' while already inside it"
  | .panelSpace position size =>
    "Failed to create skin context (position=" ++ optionText position ++ ", size=" ++
      optionText size ++ ")"
  | .ofAttribute fault => fault.message

end Skinning
