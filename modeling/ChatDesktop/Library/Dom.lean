import ChatDesktop.Library.Text

/-! Elements of an XML document with the accessors of `QDomElement`. Without namespace processing the
local name and the namespace are empty. -/

namespace ChatDesktop.Library

/-- `text` is the text of the element and its descendants. -/
inductive Element
  | mk (tagName localName namespaceURI : Text) (attributes : List (Text × Text)) (children : List Element)
      (text : Text)

namespace Element

def tagName : Element → Text
  | mk tagName _ _ _ _ _ => tagName

def localName : Element → Text
  | mk _ localName _ _ _ _ => localName

def namespaceURI : Element → Text
  | mk _ _ namespaceURI _ _ _ => namespaceURI

def children : Element → List Element
  | mk _ _ _ _ children _ => children

def text : Element → Text
  | mk _ _ _ _ _ text => text

def hasAttribute (e : Element) (name : Text) : Bool :=
  match e with
  | mk _ _ _ attributes _ _ => (attributes.lookup name).isSome

def attributeOf (e : Element) (name : Text) (default : Text := []) : Text :=
  match e with
  | mk _ _ _ attributes _ _ => (attributes.lookup name).getD default

/-- `firstChildElement(name)` and the siblings `nextSiblingElement(name)` finds after it. -/
def childrenNamed (e : Element) (name : Text) : List Element := e.children.filter (fun c => c.tagName = name)

def childText (e : Element) (name : Text) : Text := ((e.childrenNamed name).head?.map text).getD []

end Element

end ChatDesktop.Library
