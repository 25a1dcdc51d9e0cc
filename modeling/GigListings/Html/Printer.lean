import GigListings.Html.Element

namespace GigListings.Html

/-! The markup of a page written out again. -/

def voidTags : List String :=
  ["area", "base", "basefont", "bgsound", "br", "col", "embed", "frame", "hr", "img", "input",
    "keygen", "link", "meta", "param", "source", "track", "wbr"]

def rawTextTags : List String :=
  ["style", "script", "xmp", "iframe", "noembed", "noframes", "plaintext"]

def escapedChar (inAttribute : Bool) (c : Char) : String :=
  match c with
  | '&' => "&amp;"
  | '\u00A0' => "&nbsp;"
  | '"' => if inAttribute then "&quot;" else "\""
  | '<' => if inAttribute then "<" else "&lt;"
  | '>' => if inAttribute then ">" else "&gt;"
  | c => c.toString

def escapedText (inAttribute : Bool) (text : String) : String :=
  String.join (text.toList.map (escapedChar inAttribute))

namespace Attribute

def printedName (attr : Attribute) : String :=
  match attr.space with
  | .plain => attr.name
  | .xml => "xml:" ++ attr.name
  | .xmlns => if attr.name = "xmlns" then attr.name else "xmlns:" ++ attr.name
  | .xlink => "xlink:" ++ attr.name

def print (attr : Attribute) : String :=
  " " ++ attr.printedName ++ "=\"" ++ escapedText true attr.value ++ "\""

end Attribute

mutual

def Element.print : Element → String
  | ⟨_, name, attributes, children⟩ =>
      let tag := "<" ++ name.name ++ String.join (attributes.map Attribute.print) ++ ">"
      if isHtmlNamed voidTags name then tag
      else tag ++ printNodes (isHtmlNamed rawTextTags name) children ++ "</" ++ name.name ++ ">"

def Node.print (raw : Bool) : Node → String
  | .element element => element.print
  | .text text => if raw then text else escapedText false text
  | .comment text => "<!--" ++ text ++ "-->"

def printNodes (raw : Bool) : List Node → String
  | [] => ""
  | node :: rest => node.print raw ++ printNodes raw rest

end

def Element.innerMarkup (element : Element) : String := printNodes false element.children

end GigListings.Html
