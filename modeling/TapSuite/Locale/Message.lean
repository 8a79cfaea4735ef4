/-!
# Messages

A message is a text with places for values.

    Message.template ["Found ", .value "count", " suite(s)."] = "Found %{count} suite(s)."

Values are put in as they are: what a value brings in is never a place again.
-/

namespace TapSuite

inductive MessagePart where
  | text (s : String)
  | value (name : String)
  deriving DecidableEq

instance : Coe String MessagePart := ⟨.text⟩

/-- A text with places for values. -/
abbrev Message := List MessagePart

/-- A part with its place marked by the value's name. -/
def MessagePart.template : MessagePart → String
  | .text s => s
  | .value name => "%\x7b" ++ name ++ "\x7d"

def Message.template (m : Message) : String := String.join (m.map MessagePart.template)

/-- A part with its value; a place without value stays marked. -/
def MessagePart.fill (values : List (String × String)) : MessagePart → String
  | .text s => s
  | .value name => (values.lookup name).getD (MessagePart.template (.value name))

def Message.fill (m : Message) (values : List (String × String)) : String :=
  String.join (m.map (MessagePart.fill values))

end TapSuite
