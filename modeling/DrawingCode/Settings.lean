/-! # Settings and generators

The settings of a run are a name for the tool, a text put before the names of functions, and the
header that the implementation imports. The implementation generator uses all of them, the header
generator all but the last.
-/

namespace DrawingCode

def defaultToolName : String := "cggen"

/-- What can be set for a run. -/
structure Settings where
  /-- Put before the name of every drawing function. -/
  functionPrefix : String := ""
  /-- The header that the implementation imports, if it is not that of the drawing library. -/
  headerPath : Option String := none
  /-- The tool that the first line of a file names. -/
  toolName : String := defaultToolName
deriving DecidableEq

/-- What a generator writes. -/
inductive Generator where
  /-- Function bodies. -/
  | implementation (settings : Settings)
  /-- Size constants and function prototypes. -/
  | header (functionPrefix toolName : String)
deriving DecidableEq

namespace Settings

def implementationGenerator (s : Settings) : Generator := .implementation s

def headerGenerator (s : Settings) : Generator := .header s.functionPrefix s.toolName

end Settings

namespace Generator

/-- The name of a generator, as log records and shown objects give it. -/
def name : Generator → String
  | implementation _ => "ObjcCGGenerator"
  | header .. => "ObjcHeaderCGGenerator"

def functionPrefix : Generator → String
  | implementation settings => settings.functionPrefix
  | header functionPrefix _ => functionPrefix

def toolName : Generator → String
  | implementation settings => settings.toolName
  | header _ toolName => toolName

end Generator

end DrawingCode
