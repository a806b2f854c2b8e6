/-!
# Elements

The HTML elements that can be styled apart from blocks, globally or inside a block, each with its
fixed selector. Root elements are emitted in the order of `Element.all`.
-/

namespace GlobalStyles

/-- The selector of the root. -/
def rootSelector : String := "body"

/-- A semantic part of a page or of a block. -/
inductive Element where
  | link
  | heading
  | h1
  | h2
  | h3
  | h4
  | h5
  | h6
  | button
  | caption
  | cite
  deriving DecidableEq

namespace Element

/-- The elements in the order in which they are emitted. -/
def all : List Element :=
  [link, heading, h1, h2, h3, h4, h5, h6, button, caption, cite]

/-- The key of an element among the styles. -/
def name : Element → String
  | link => "link"
  | heading => "heading"
  | h1 => "h1"
  | h2 => "h2"
  | h3 => "h3"
  | h4 => "h4"
  | h5 => "h5"
  | h6 => "h6"
  | button => "button"
  | caption => "caption"
  | cite => "cite"

/-- The selector of an element, which may be a list. -/
def selector : Element → String
  | link => "a"
  | heading => "h1, h2, h3, h4, h5, h6"
  | h1 => "h1"
  | h2 => "h2"
  | h3 => "h3"
  | h4 => "h4"
  | h5 => "h5"
  | h6 => "h6"
  | button => ".wp-element-button, .wp-block-button__link"
  | caption =>
    ", ".intercalate
      [".wp-element-caption", ".wp-block-audio figcaption", ".wp-block-embed figcaption",
        ".wp-block-gallery figcaption", ".wp-block-image figcaption",
        ".wp-block-table figcaption", ".wp-block-video figcaption"]
  | cite => "cite"

/-- The element with this name. -/
def ofName? (name : String) : Option Element :=
  all.find? (·.name == name)

/-- The place of an element in the order of emission. -/
def index (element : Element) : Nat :=
  all.idxOf element

/-- The list of elements is complete. -/
theorem mem_all (element : Element) : element ∈ all := by
  cases element <;> decide

/-- An element is found by its name. -/
theorem ofName?_name (element : Element) : ofName? element.name = some element := by
  cases element <;> decide

end Element

end GlobalStyles
