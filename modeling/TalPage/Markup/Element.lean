import TalPage.Markup.Symbol
import TalPage.Text.Blank

/-!
# Elements

An element while it is read, and the HTML it is written as. Nothing is escaped: the markup is
trusted.
-/

namespace TalPage.Markup

/-- The name of the script object that receives the actions. -/
def dispatcherName : String := "app"

/-- An element: its `style` is the fragments added so far, each followed by a space, and its
`children` are finished HTML. -/
structure Element where
  tag : String := defaultTag
  id : String := ""
  style : String := ""
  action : String := ""
  content : String := ""
  children : List String := []
deriving DecidableEq, Repr

namespace Element

def addStyle (e : Element) (fragment : String) : Element :=
  { e with style := e.style ++ fragment ++ " " }

def addChild (e : Element) (html : String) : Element :=
  { e with children := e.children ++ [html] }

/-- The attributes in the order they are written; one that would be empty is left out, and the
style is written without the blanks around it. -/
def attributes (e : Element) : List (String × String) :=
  let style := Text.strip e.style
  (if e.id = "" then [] else [("id", e.id)]) ++
  (if style = "" then [] else [("style", style)]) ++
  (if e.action = "" then []
    else [("data-action", e.action), ("onclick", dispatcherName ++ ".dispatch('" ++ e.action ++ "')")])

/-- An attribute as it stands in a tag, with the space before it. -/
def attributeText (name value : String) : String :=
  " " ++ name ++ "=\"" ++ value ++ "\""

/-- The HTML of the element: content first, then the children in order. -/
def html (e : Element) : String :=
  "<" ++ e.tag ++ String.join (e.attributes.map fun (name, value) => attributeText name value) ++ ">" ++
    e.content ++ String.join e.children ++ "</" ++ e.tag ++ ">"

end Element

end TalPage.Markup
