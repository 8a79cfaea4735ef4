import TapSuite.Html.Escape

/-!
# HTML documents

A document is a list of tokens: tags, text, and verbatim parts such as style sheets.  Text is
escaped when the document is written, so it can hold anything; a verbatim part is written as it is.

    render (element "td" [] [.text "a<b"]) = "<td>a&lt;b</td>"
-/

namespace TapSuite.Html

/-- An attribute of a tag, with the quotes around its value. -/
structure Attribute where
  name : String
  value : String
  quote : Char := '\''
  deriving DecidableEq

/-- A piece of a document. -/
inductive Token where
  | doctype
  | opening (name : String) (attributes : List Attribute)
  | closing (name : String)
  | text (s : String)
  | verbatim (s : String)
  deriving DecidableEq

def element (name : String) (attributes : List Attribute) (content : List Token) : List Token :=
  .opening name attributes :: content ++ [.closing name]

/-- The attribute that names style classes. -/
def styleClass (value : String) : Attribute := { name := "class", value }

/-- An attribute as it is written in a tag. -/
def Attribute.render (a : Attribute) : List Char :=
  ' ' :: a.name.toList ++ ['=', a.quote] ++ a.value.toList ++ [a.quote]

/-- A token as it is written in a document. -/
def Token.render : Token → List Char
  | .doctype => "<!DOCTYPE html>".toList
  | .opening name attributes => '<' :: name.toList ++ attributes.flatMap Attribute.render ++ ['>']
  | .closing name => '<' :: '/' :: name.toList ++ ['>']
  | .text s => escape s.toList
  | .verbatim s => s.toList

def render (ts : List Token) : String := String.ofList (ts.flatMap Token.render)

end TapSuite.Html
