import MessageFormat.Fault
import MessageFormat.Value.Text

/-!
The arguments of a message: values by name, or a value that holds none.
-/

set_option autoImplicit false

namespace MessageFormat

inductive Arguments where
  | named (entries : List (Value × Value))
  | nameless (type : String)
deriving Repr

/-- The name of a value's type. -/
def Graph.typeName (g : Graph) : Value → String
  | .null => "NoneType"
  | .bool _ => "bool"
  | .int _ => "int"
  | .float _ => "float"
  | .decimal _ => "decimal.Decimal"
  | .text _ => "str"
  | .bytes _ => "bytes"
  | .date _ => "datetime.date"
  | .time _ => "datetime.time"
  | .moment _ => "datetime.datetime"
  | .duration _ => "datetime.timedelta"
  | .list _ => "list"
  | .tuple _ => "tuple"
  | .set _ => "set"
  | .other _ => "object"
  | .node place =>
    match g.nodes[place]? with
    | some (.map _) | none => "dict"
    | some (.record name _) | some (.object name _) => name

namespace Arguments

/-- Nothing at all and what counts as nothing name no arguments; other values need to be maps. -/
def ofValue (g : Graph) (v : Value) : Arguments :=
  if v.isFalsy g then .named []
  else match v with
    | .node place =>
      match g.nodes[place]? with
      | some (.map entries) => .named entries
      | _ => .nameless (g.typeName v)
    | _ => .nameless (g.typeName v)

/-- The value of a name; a missing one is null. -/
def get (a : Arguments) (name : String) : Except Fault Value :=
  match a with
  | .named entries =>
    .ok (((entries.find? fun e => e.1.sameKey (.text name)).map (·.2)).getD .null)
  | .nameless type => .error ⟨.attribute, s!"'{type}' object has no attribute 'get'"⟩

end Arguments
end MessageFormat
