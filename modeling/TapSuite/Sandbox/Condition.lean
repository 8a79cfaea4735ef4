import TapSuite.Workspace.Files

/-!
# Conditions of scripts

The verdict of `test` on its arguments:

    -n text   -z text   -f path   -d path   -e path
    a = b     a != b    m -eq n   m -ne n   m -lt n   m -le n   m -gt n   m -ge n

None if the arguments make no condition.
-/

namespace TapSuite.Sandbox

/-- The comparison of two integers that an operator names. -/
def comparison? (operator : String) (a b : Int) : Option Bool :=
  match operator with
  | "-eq" => some (a = b)
  | "-ne" => some (a ≠ b)
  | "-lt" => some (a < b)
  | "-le" => some (a ≤ b)
  | "-gt" => some (b < a)
  | "-ge" => some (b ≤ a)
  | _ => none

/-- The verdict on a text or a path that an operator names. -/
def property? (w : Workspace) (operator a : String) : Option Bool :=
  match operator with
  | "-n" => some (a ≠ "")
  | "-z" => some (a = "")
  | "-f" => some (w.isFile a)
  | "-d" => some (w.isDirectory a)
  | "-e" => some (w.holds a)
  | _ => none

def condition? (w : Workspace) (args : List String) : Option Bool :=
  match args with
  | [] => some false
  | [a] => some (a ≠ "")
  | ["!", a] => some (a = "")
  | [operator, a] => property? w operator a
  | [a, "=", b] => some (a = b)
  | [a, "!=", b] => some (a ≠ b)
  | ["!", operator, a] => (property? w operator a).map (!·)
  | [a, operator, b] =>
    match a.toInt?, b.toInt? with
    | some a, some b => comparison? operator a b
    | _, _ => none
  | ["!", a, "=", b] => some (a ≠ b)
  | ["!", a, "!=", b] => some (a = b)
  | _ => none

end TapSuite.Sandbox
