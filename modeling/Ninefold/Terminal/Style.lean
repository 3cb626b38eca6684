import Ninefold.Editor

/-!
# Styles

Text is set off on a terminal by a code before it and a code after it that ends
all styles. Where such an end already stands in the text, the style is begun
again behind it. Colours are used only where the environment asks for them,
since what is printed need not go to a terminal.
-/

namespace Ninefold.Terminal

/-- A way to set text off. -/
inductive Style where
  | bold
  | dim
  | green
  | yellow
deriving DecidableEq

namespace Style

/-- The character that begins every code. -/
def escape : String := String.ofList ['\x1b']

/-- The code of a number. -/
def code (number : String) : String := escape ++ "[" ++ number ++ "m"

/-- The code that ends all styles. -/
def reset : String := code "0"

/-- The code that begins a style. -/
def start : Style → String
  | .bold => code "1"
  | .dim => code "2"
  | .green => code "32"
  | .yellow => code "33"

/-- A text with the style begun again behind every end of styles. -/
def renew (s : Style) (text : String) : String :=
  (reset ++ s.start).intercalate (text.splitOn reset)

/-- A text set off, if there are colours at all. -/
def apply (s : Style) (colours : Bool) (text : String) : String :=
  if colours then s.start ++ s.renew text ++ reset else text

end Style

/-- Whether a variable is set to anything but zero. -/
def isOn (env : Environment) (name : String) : Bool :=
  match env name with
  | some value => value != "0"
  | none => false

/-- Whether what is printed has colours: only if they are asked for, since the
output is no terminal. -/
def printsColours (env : Environment) : Bool := isOn env "CLICOLOR_FORCE"

/-- Whether notes have colours. -/
def notesColours (env : Environment) : Bool :=
  match env "RUST_LOG_STYLE" with
  | some "always" => true
  | some "never" => false
  | _ => (env "NO_COLOR").getD "" == "" && isOn env "CLICOLOR_FORCE"

end Ninefold.Terminal
