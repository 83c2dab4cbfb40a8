/-!
# XML elements

An element has its tag and attributes with namespaces resolved (`\x7buri\x7dname`), the
text before its first child, and its children in document order.
-/

namespace TestImpact

/-- Why a text is refused as XML. -/
inductive XmlProblem where
  | malformed
  | entityDeclared
  deriving DecidableEq, Repr

/-- An element of an XML document. -/
inductive Element where
  | mk (tag : String) (attributes : List (String × String)) (text : String)
    (children : List Element)

namespace Element

instance : Inhabited Element := ⟨mk "" [] "" []⟩

/-- The name of an element. -/
def tag : Element → String
  | mk tag _ _ _ => tag

/-- The attributes of an element. -/
def attributes : Element → List (String × String)
  | mk _ attributes _ _ => attributes

/-- The text before the first child. -/
def text : Element → String
  | mk _ _ text _ => text

/-- The child elements. -/
def children : Element → List Element
  | mk _ _ _ children => children

/-- The value of an attribute. -/
def attribute? (element : Element) (name : String) : Option String :=
  element.attributes.lookup name

/-- The first child with a tag. -/
def child? (element : Element) (tag : String) : Option Element :=
  element.children.find? (·.tag = tag)

mutual

/-- An element and everything in it, in document order. -/
def subtree : Element → List Element
  | mk tag attributes text children => mk tag attributes text children :: forest children

/-- Elements and everything in them, in document order. -/
def forest : List Element → List Element
  | [] => []
  | element :: rest => subtree element ++ forest rest

end

/-- The elements with a tag in an element, itself included, in document order. -/
def withTag (element : Element) (tag : String) : List Element :=
  element.subtree.filter (·.tag = tag)

end Element

end TestImpact
