import MessageFormat.Fault
import MessageFormat.Text.Case
import MessageFormat.Value.Text

/-!
What a host adds: formatters for arguments and handlers for tags, and a few of each to start with.
-/

set_option autoImplicit false

namespace MessageFormat

/-- Makes a text of a value, a style as it is written, and the requested locale. -/
abbrev CustomFormatter := Graph → Value → Option String → String → Except Fault String

/-- Makes a text of the text inside a tag. -/
abbrev TagHandler := String → Except Fault String

namespace CustomFormatter

/-- Upper case, with an exclamation mark. -/
def shout : CustomFormatter := fun g value _ _ => .ok (Text.upperString (g.plainText value) ++ "!")

/-- All that it is given. -/
def echo : CustomFormatter := fun g value style locale =>
  let style := style.getD "~"
  .ok s!"[{g.plainText value}|{style}|{locale}]"

def failing : CustomFormatter := fun _ _ _ _ => .error ⟨.runtime, "boom"⟩

def ofName? : String → Option CustomFormatter
  | "upper" => some shout
  | "echo" => some echo
  | "boom" => some failing
  | _ => none

end CustomFormatter

namespace TagHandler

def enclose (opening closing : String) : TagHandler := fun content =>
  .ok (opening ++ content ++ closing)

def constant (text : String) : TagHandler := fun _ => .ok text

def upper : TagHandler := fun content => .ok (Text.upperString content)

def failing : TagHandler := fun _ => .error ⟨.runtime, "tag boom"⟩

def ofName? : String → List String → Option TagHandler
  | "wrap", [opening, closing] => some (enclose opening closing)
  | "const", [text] => some (constant text)
  | "upper", _ => some upper
  | "boom", _ => some failing
  | _, _ => none

end TagHandler
end MessageFormat
