import GigListings.Html.Adoption

namespace GigListings.Html

open Build

/-! What each token does in each insertion mode. -/

inductive Outcome where
  | done
  /-- The token is looked at again, in this mode. -/
  | again (mode : Mode)
  /-- The token is looked at again. -/
  | retry

abbrev Rule := Token → Build Outcome

def finish (step : Build Unit) : Build Outcome := do
  step
  return .done

def ignore : Build Outcome := return .done

def Tag.isHidden (tag : Tag) : Bool :=
  match tag.attributes.lookup "type" with
  | some value => lowered value == "hidden"
  | none => false

/-! The head of a page. -/

def headTags : List String :=
  ["base", "basefont", "bgsound", "link", "meta", "noframes", "script", "style", "template",
    "title"]

def startRoot (attributes : List (String × String)) : Build Unit := do
  let id ← make (.element ⟨.html, "html"⟩ (plainAttributes attributes))
  changeArena fun arena => arena.append 0 id
  push id

/-- A second root only adds attributes to the first. -/
def mergeRoot (tag : Tag) : Build Unit := do
  let b ← get
  if !b.hasOpen "template" then
    match b.htmlElement? with
    | some root =>
        changeArena fun arena => arena.addAttributes root (plainAttributes tag.attributes)
    | none => pure ()

def openTemplate (tag : Tag) : Build Unit := do
  openTag tag
  addMarker
  forbidFrameset
  modify fun b => { b with mode := .inTemplate, templateModes := .inTemplate :: b.templateModes }

def leaveTemplate : Build Unit := do
  popUntilNamed ["template"]
  clearToMarker
  modify fun b => { b with templateModes := b.templateModes.drop 1 }
  modify fun b => { b with mode := b.resetMode }

def closeTemplate : Build Unit := do
  if (← get).hasOpen "template" then
    closeImplied thoroughImpliedEnds
    leaveTemplate

def headTag (tag : Tag) : Build Unit :=
  match tag.name with
  | "title" => openText tag (.escapable "title")
  | "noframes" => openText tag (.raw "noframes")
  | "style" => openText tag (.raw "style")
  | "script" => openText tag .script
  | "template" => openTemplate tag
  | _ => insertTag tag

def endsHead (name : String) : Bool := ["body", "html", "br"].contains name

def initial : Rule
  | .blank _ => ignore
  | .comment text => finish (appendComment 0 text)
  | .doctype oldLayout => do
      modify fun b => { b with oldLayout, mode := .beforeHtml }
      return .done
  | _ => do
      modify fun b => { b with oldLayout := true }
      return .again .beforeHtml

def beforeHtml : Rule
  | .blank _ => ignore
  | .comment text => finish (appendComment 0 text)
  | .startTag tag =>
      if tag.name = "html" then do
        startRoot tag.attributes
        setMode .beforeHead
        return .done
      else withoutRoot
  | .endTag name => if name = "head" ∨ endsHead name then withoutRoot else ignore
  | _ => withoutRoot
where
  withoutRoot : Build Outcome := do
    startRoot []
    return .again .beforeHead

def openHead (tag : Tag) : Build Unit := do
  let id ← openElement ⟨.html, "head"⟩ (plainAttributes tag.attributes)
  modify fun b => { b with head := some id }

def beforeHead : Rule
  | .blank _ => ignore
  | .comment text => finish (insertComment text)
  | .startTag tag =>
      if tag.name = "html" then finish (mergeRoot tag)
      else if tag.name = "head" then finish do
        openHead tag
        setMode .inHead
      else withoutHead
  | .endTag name => if name = "head" ∨ endsHead name then withoutHead else ignore
  | _ => withoutHead
where
  withoutHead : Build Outcome := do
    openHead ⟨"head", [], false⟩
    return .again .inHead

def inHead : Rule
  | .blank text => finish (insertText text)
  | .comment text => finish (insertComment text)
  | .startTag tag =>
      if tag.name = "html" then finish (mergeRoot tag)
      else if tag.name = "noscript" then finish (openText tag (.raw "noscript"))
      else if headTags.contains tag.name then finish (headTag tag)
      else if tag.name = "head" then ignore
      else leave
  | .endTag name =>
      if name = "head" then finish do
        pop
        setMode .afterHead
      else if name = "template" then finish closeTemplate
      else if endsHead name then leave
      else ignore
  | _ => leave
where
  leave : Build Outcome := do
    pop
    return .again .afterHead

/-- What belongs into the head still gets there. -/
def reopenHead (tag : Tag) : Build Unit := do
  match (← get).head with
  | some head =>
      push head
      headTag tag
      removeOpen head
  | none => headTag tag

def afterHead : Rule
  | .blank text => finish (insertText text)
  | .comment text => finish (insertComment text)
  | .startTag tag =>
      if tag.name = "html" then finish (mergeRoot tag)
      else if tag.name = "body" then finish do
        openTag tag
        forbidFrameset
        setMode .inBody
      else if tag.name = "frameset" then finish do
        openTag tag
        setMode .inFrameset
      else if headTags.contains tag.name then finish (reopenHead tag)
      else if tag.name = "head" then ignore
      else withoutBody
  | .endTag name =>
      if name = "template" then finish closeTemplate
      else if endsHead name then withoutBody
      else ignore
  | _ => withoutBody
where
  withoutBody : Build Outcome := do
    openNamed "body"
    return .again .inBody

/-! The body of a page. -/

def blockTags : List String :=
  ["address", "article", "aside", "blockquote", "center", "details", "dialog", "dir", "div", "dl",
    "fieldset", "figcaption", "figure", "footer", "header", "hgroup", "main", "menu", "nav", "ol",
    "p", "section", "summary", "ul"]

def blockEnds : List String :=
  ["address", "article", "aside", "blockquote", "button", "center", "details", "dialog", "dir",
    "div", "dl", "fieldset", "figcaption", "figure", "footer", "header", "hgroup", "listing",
    "main", "menu", "nav", "ol", "pre", "section", "summary", "ul"]

def formattingTags : List String :=
  ["b", "big", "code", "em", "font", "i", "s", "small", "strike", "strong", "tt", "u"]

def bodyText (text : List Char) : Build Unit := do
  reopenFormatting
  insertText text

/-- A second body only adds attributes to the first. -/
def mergeBody (tag : Tag) : Build Unit := do
  let b ← get
  match b.body? with
  | some body =>
      if b.opened.length ≠ 1 && !b.hasOpen "template" then
        forbidFrameset
        changeArena fun arena => arena.addAttributes body (plainAttributes tag.attributes)
  | none => pure ()

/-- Frames take the place of a body that has no content yet. -/
def replaceBody (tag : Tag) : Build Unit := do
  let b ← get
  match b.body? with
  | some body =>
      if b.framesetOk then
        changeArena fun arena => arena.detach body
        modify fun b => { b with opened := b.opened.reverse.take 1 }
        openTag tag
        setMode .inFrameset
  | none => pure ()

def openHeading (tag : Tag) : Build Unit := do
  closeParagraphInScope
  if (← get).currentNamed headings then pop
  openTag tag

def openForm (tag : Tag) : Build Unit := do
  let b ← get
  if b.form.isNone || b.hasOpen "template" then
    closeParagraphInScope
    let id ← openElement ⟨.html, "form"⟩ (plainAttributes tag.attributes)
    if !b.hasOpen "template" then modify fun b => { b with form := some id }

/-- Items of lists close the item before them. -/
def openItem (tag : Tag) : Build Unit := do
  forbidFrameset
  let b ← get
  let siblings := if tag.name = "li" then ["li"] else ["dd", "dt"]
  match b.opened.find? fun id =>
      b.nameIs (isHtmlNamed siblings) id || b.nameIs isSpecialButBlock id with
  | some id =>
      match (b.arena.elementName? id).filter (isHtmlNamed siblings) with
      | some name =>
          closeImpliedExcept name.name
          popUntilNamed [name.name]
      | none => pure ()
  | none => pure ()
  closeParagraphInScope
  openTag tag

def openButton (tag : Tag) : Build Unit := do
  if (← get).inScope endsScope ["button"] then
    closeImplied impliedEnds
    popUntilNamed ["button"]
  reopenFormatting
  openTag tag
  forbidFrameset

/-- A link inside of a link closes the outer one. -/
def openLink (tag : Tag) : Build Unit := do
  let b ← get
  match (sinceMarker b).find? fun (id, _) => b.nameIs (isHtmlNamed ["a"]) id with
  | some (id, _) =>
      adopt "a"
      removeFormatting id
      removeOpen id
  | none => pure ()
  reopenFormatting
  openFormatting tag

def openUnbroken (tag : Tag) : Build Unit := do
  reopenFormatting
  if (← get).inScope endsScope ["nobr"] then
    adopt "nobr"
    reopenFormatting
  openFormatting tag

def openTable (tag : Tag) : Build Unit := do
  if !(← get).oldLayout then closeParagraphInScope
  openTag tag
  forbidFrameset
  setMode .inTable

def insertInline (tag : Tag) : Build Unit := do
  reopenFormatting
  insertTag tag
  if !(tag.name = "input" && tag.isHidden) then forbidFrameset

def openSelect (tag : Tag) : Build Unit := do
  reopenFormatting
  openTag tag
  forbidFrameset
  modify fun b =>
    { b with mode :=
        if [Mode.inTable, .inCaption, .inTableBody, .inRow, .inCell].contains b.mode then
          .inSelectInTable
        else .inSelect }

def openOption (tag : Tag) : Build Unit := do
  if (← get).currentNamed ["option"] then pop
  reopenFormatting
  openTag tag

def openRuby (except : Option String) (tag : Tag) : Build Unit := do
  if (← get).inScope endsScope ["ruby"] then
    match except with
    | some name => closeImpliedExcept name
    | none => closeImplied impliedEnds
  openTag tag

def openForeign (space : Space) (tag : Tag) : Build Unit := do
  let name := elementNameIn space tag.name
  let attributes := attributesIn space tag.attributes
  if tag.selfClosing then discard (insertElement name attributes)
  else discard (openElement name attributes)

def tableOnlyTags : List String :=
  ["caption", "col", "colgroup", "frame", "head", "tbody", "td", "tfoot", "th", "thead", "tr"]

def bodyTag (tag : Tag) : Build Unit := do
  let name := tag.name
  if name = "html" then mergeRoot tag
  else if headTags.contains name then headTag tag
  else if name = "body" then mergeBody tag
  else if name = "frameset" then replaceBody tag
  else if blockTags.contains name then
    closeParagraphInScope
    openTag tag
  else if headings.contains name then openHeading tag
  else if ["pre", "listing"].contains name then
    closeParagraphInScope
    openTag tag
    modify fun b => { b with skipLineFeed := true, framesetOk := false }
  else if name = "form" then openForm tag
  else if ["li", "dd", "dt"].contains name then openItem tag
  else if name = "plaintext" then
    closeParagraphInScope
    openTag tag
    modify fun b => { b with textMode := .plain }
  else if name = "button" then openButton tag
  else if name = "a" then openLink tag
  else if formattingTags.contains name then
    reopenFormatting
    openFormatting tag
  else if name = "nobr" then openUnbroken tag
  else if ["applet", "marquee", "object"].contains name then
    reopenFormatting
    openTag tag
    addMarker
    forbidFrameset
  else if name = "table" then openTable tag
  else if ["area", "br", "embed", "img", "keygen", "wbr", "input"].contains name then
    insertInline tag
  else if ["param", "source", "track"].contains name then insertTag tag
  else if name = "hr" then
    closeParagraphInScope
    insertTag tag
    forbidFrameset
  else if name = "image" then insertInline { tag with name := "img" }
  else if name = "textarea" then
    openText tag (.escapable "textarea")
    modify fun b => { b with skipLineFeed := true, framesetOk := false }
  else if name = "xmp" then
    closeParagraphInScope
    reopenFormatting
    forbidFrameset
    openText tag (.raw "xmp")
  else if name = "iframe" then
    forbidFrameset
    openText tag (.raw "iframe")
  else if ["noembed", "noscript"].contains name then openText tag (.raw name)
  else if name = "select" then openSelect tag
  else if ["optgroup", "option"].contains name then openOption tag
  else if ["rb", "rtc"].contains name then openRuby none tag
  else if ["rp", "rt"].contains name then openRuby (some "rtc") tag
  else if name = "math" then openForeign .math tag
  else if name = "svg" then openForeign .svg tag
  else if tableOnlyTags.contains name then return
  else
    reopenFormatting
    openTag tag

def closeForm : Build Unit := do
  let b ← get
  if b.hasOpen "template" then
    if b.inScope endsScope ["form"] then
      closeImplied impliedEnds
      popUntilNamed ["form"]
  else
    modify fun b => { b with form := none }
    match b.form with
    | some form =>
        if b.inScopeOf endsScope (· == form) b.opened then
          closeImplied impliedEnds
          removeOpen form
    | none => pure ()

def closeParagraphTag : Build Unit := do
  if !(← get).inScope endsButtonScope ["p"] then openNamed "p"
  closeParagraph

def closeItem (name : String) : Build Unit := do
  let barrier := if name = "li" then endsListScope else endsScope
  if (← get).inScope barrier [name] then
    closeImpliedExcept name
    popUntilNamed [name]

def closeHeading : Build Unit := do
  if (← get).inScope endsScope headings then
    closeImplied impliedEnds
    popUntilNamed headings

def bodyEnd (name : String) : Build Unit := do
  if name = "template" then closeTemplate
  else if blockEnds.contains name then
    if (← get).inScope endsScope [name] then
      closeImplied impliedEnds
      popUntilNamed [name]
  else if name = "form" then closeForm
  else if name = "p" then closeParagraphTag
  else if ["li", "dd", "dt"].contains name then closeItem name
  else if headings.contains name then closeHeading
  else if name = "a" ∨ name = "nobr" ∨ formattingTags.contains name then adopt name
  else if ["applet", "marquee", "object"].contains name then
    if (← get).inScope endsScope [name] then
      closeImplied impliedEnds
      popUntilNamed [name]
      clearToMarker
  else if name = "br" then insertInline ⟨"br", [], false⟩
  else closeAny name

/-- The page ends inside of a template. -/
def stopInTemplate : Build Outcome := do
  if (← get).hasOpen "template" then
    leaveTemplate
    return .again (← get).resetMode
  else return .done

def inBody : Rule
  | .null => ignore
  | .doctype _ => ignore
  | .blank text => finish (bodyText text)
  | .chars text => finish do
      bodyText text
      forbidFrameset
  | .comment text => finish (insertComment text)
  | .startTag tag => finish (bodyTag tag)
  | .endTag name => do
      if name = "body" then
        if (← get).inScope endsScope ["body"] then setMode .afterBody
        return .done
      else if name = "html" then
        if (← get).inScope endsScope ["body"] then return .again .afterBody
        else return .done
      else finish (bodyEnd name)
  | .stop => do
      if (← get).templateModes.isEmpty then return .done
      else stopInTemplate

def inRawText : Rule
  | .blank text => finish (insertText text)
  | .chars text => finish (insertText text)
  | .endTag _ => do
      pop
      setMode (← get).returnMode
      return .done
  | .stop => do
      pop
      return .again (← get).returnMode
  | _ => ignore

/-! Tables. -/

/-- What does not fit into a table goes before it. -/
def foster (token : Token) : Build Outcome := do
  modify fun b => { b with fostering := true }
  let outcome ← inBody token
  modify fun b => { b with fostering := false }
  return outcome

/-- Text in a table stays there if all of it is blank. -/
def tableText (token : Token) : Build Outcome := do
  let b ← get
  if b.currentNamed tableParts then
    modify fun b => { b with returnMode := b.mode, tableText := [] }
    return .again .inTableText
  else foster token

def openInTable (tag : Tag) (mode : Mode) : Build Unit := do
  popUntilCurrent ["table", "html", "template"]
  openTag tag
  setMode mode

def openLeftOut (name : String) (mode : Mode) : Build Outcome := do
  popUntilCurrent ["table", "html", "template"]
  openNamed name
  return .again mode

def inTable : Rule
  | .null => tableText .null
  | .blank text => tableText (.blank text)
  | .chars text => tableText (.chars text)
  | .comment text => finish (insertComment text)
  | .doctype _ => ignore
  | .stop => inBody .stop
  | .startTag tag => do
      let b ← get
      if tag.name = "caption" then finish do
        popUntilCurrent ["table", "html", "template"]
        addMarker
        openTag tag
        setMode .inCaption
      else if tag.name = "colgroup" then finish (openInTable tag .inColumnGroup)
      else if tag.name = "col" then openLeftOut "colgroup" .inColumnGroup
      else if ["tbody", "tfoot", "thead"].contains tag.name then
        finish (openInTable tag .inTableBody)
      else if ["td", "th", "tr"].contains tag.name then openLeftOut "tbody" .inTableBody
      else if tag.name = "table" then
        if b.inScope endsTableScope ["table"] then
          popUntilNamed ["table"]
          return .again (← get).resetMode
        else return .done
      else if ["style", "script", "template"].contains tag.name then finish (headTag tag)
      else if tag.name = "input" && tag.isHidden then finish (insertTag tag)
      else if tag.name = "form" then
        if b.form.isNone && !b.hasOpen "template" then
          let id ← insertElement ⟨.html, "form"⟩ (plainAttributes tag.attributes)
          modify fun b => { b with form := some id }
        return .done
      else foster (.startTag tag)
  | .endTag name => do
      if name = "table" then
        if (← get).inScope endsTableScope ["table"] then
          popUntilNamed ["table"]
          modify fun b => { b with mode := b.resetMode }
        return .done
      else if name = "template" then finish closeTemplate
      else if ["body", "caption", "col", "colgroup", "html", "tbody", "td", "tfoot", "th", "thead",
          "tr"].contains name then
        return .done
      else foster (.endTag name)

def isBlankToken : Token → Bool
  | .blank _ => true
  | _ => false

def settleTableText (token : Token) : Build Unit := do
  match token with
  | .blank text => insertText text
  | .chars text => insertText text
  | _ => pure ()

def inTableText : Rule
  | .null => ignore
  | .blank text => keep (.blank text)
  | .chars text => keep (.chars text)
  | _ => do
      let pending := (← get).tableText.reverse
      modify fun b => { b with tableText := [] }
      if pending.all isBlankToken then
        for token in pending do
          settleTableText token
      else
        for token in pending do
          discard (foster token)
      return .again (← get).returnMode
where
  keep (token : Token) : Build Outcome := do
    modify fun b => { b with tableText := token :: b.tableText }
    return .done

def closeCaption (after : Outcome) : Build Outcome := do
  if (← get).inScope endsTableScope ["caption"] then
    closeImplied impliedEnds
    popUntilNamed ["caption"]
    clearToMarker
    match after with
    | .done => setMode .inTable
    | _ => pure ()
    return after
  else return .done

def inCaption : Rule
  | .startTag tag =>
      if ["caption", "col", "colgroup", "tbody", "td", "tfoot", "th", "thead", "tr"].contains
          tag.name then
        closeCaption (.again .inTable)
      else inBody (.startTag tag)
  | .endTag name =>
      if name = "caption" then closeCaption .done
      else if name = "table" then closeCaption (.again .inTable)
      else if ["body", "col", "colgroup", "html", "tbody", "td", "tfoot", "th", "thead",
          "tr"].contains name then
        ignore
      else inBody (.endTag name)
  | token => inBody token

def inColumnGroup : Rule
  | .blank text => finish (insertText text)
  | .comment text => finish (insertComment text)
  | .doctype _ => ignore
  | .stop => inBody .stop
  | .startTag tag =>
      if tag.name = "html" then finish (mergeRoot tag)
      else if tag.name = "col" then finish (insertTag tag)
      else if tag.name = "template" then finish (headTag tag)
      else leave
  | .endTag name => do
      if name = "colgroup" then
        if (← get).currentNamed ["colgroup"] then
          pop
          setMode .inTable
        return .done
      else if name = "col" then return .done
      else if name = "template" then finish closeTemplate
      else leave
  | _ => leave
where
  leave : Build Outcome := do
    if (← get).currentNamed ["colgroup"] then
      pop
      return .again .inTable
    else return .done

def bodyContext : List String := ["tbody", "tfoot", "thead", "template", "html"]

def closeTableBody : Build Outcome := do
  if (← get).inScope endsTableScope ["table", "tbody", "tfoot"] then
    popUntilCurrent bodyContext
    pop
    return .again .inTable
  else return .done

def inTableBody : Rule
  | .startTag tag => do
      if tag.name = "tr" then finish do
        popUntilCurrent bodyContext
        openTag tag
        setMode .inRow
      else if ["th", "td"].contains tag.name then
        popUntilCurrent bodyContext
        openNamed "tr"
        return .again .inRow
      else if ["caption", "col", "colgroup", "tbody", "tfoot", "thead"].contains tag.name then
        closeTableBody
      else inTable (.startTag tag)
  | .endTag name => do
      if ["tbody", "tfoot", "thead"].contains name then
        if (← get).inScope endsTableScope [name] then
          popUntilCurrent bodyContext
          pop
          setMode .inTable
        return .done
      else if name = "table" then closeTableBody
      else if ["body", "caption", "col", "colgroup", "html", "td", "th", "tr"].contains name then
        return .done
      else inTable (.endTag name)
  | token => inTable token

def rowContext : List String := ["tr", "template", "html"]

def closeRow (after : Outcome) : Build Outcome := do
  if (← get).inScope endsTableScope ["tr"] then
    popUntilCurrent rowContext
    pop
    match after with
    | .done => setMode .inTableBody
    | _ => pure ()
    return after
  else return .done

def inRow : Rule
  | .startTag tag => do
      if ["th", "td"].contains tag.name then finish do
        popUntilCurrent rowContext
        openTag tag
        setMode .inCell
        addMarker
      else if ["caption", "col", "colgroup", "tbody", "tfoot", "thead", "tr"].contains tag.name then
        closeRow (.again .inTableBody)
      else inTable (.startTag tag)
  | .endTag name => do
      if name = "tr" then closeRow .done
      else if name = "table" then closeRow (.again .inTableBody)
      else if ["tbody", "tfoot", "thead"].contains name then
        if (← get).inScope endsTableScope [name] then closeRow (.again .inTableBody)
        else return .done
      else if ["body", "caption", "col", "colgroup", "html", "td", "th"].contains name then
        return .done
      else inTable (.endTag name)
  | token => inTable token

def closeCell : Build Outcome := do
  closeImplied impliedEnds
  popUntilNamed ["td", "th"]
  clearToMarker
  return .again .inRow

def inCell : Rule
  | .startTag tag => do
      if ["caption", "col", "colgroup", "tbody", "td", "tfoot", "th", "thead", "tr"].contains
          tag.name then
        if (← get).inScope endsTableScope ["td", "th"] then closeCell else return .done
      else inBody (.startTag tag)
  | .endTag name => do
      if ["td", "th"].contains name then
        if (← get).inScope endsTableScope [name] then
          closeImplied impliedEnds
          popUntilNamed [name]
          clearToMarker
          setMode .inRow
        return .done
      else if ["body", "caption", "col", "colgroup", "html"].contains name then return .done
      else if ["table", "tbody", "tfoot", "thead", "tr"].contains name then
        if (← get).inScope endsTableScope [name] then closeCell else return .done
      else inBody (.endTag name)
  | token => inBody token

/-! Lists of options. -/

def closeSelect : Build Unit := do
  popUntilNamed ["select"]
  modify fun b => { b with mode := b.resetMode }

def inSelect : Rule
  | .null => ignore
  | .doctype _ => ignore
  | .blank text => finish (insertText text)
  | .chars text => finish (insertText text)
  | .comment text => finish (insertComment text)
  | .stop => inBody .stop
  | .startTag tag => do
      if tag.name = "html" then finish (mergeRoot tag)
      else if tag.name = "option" then finish do
        if (← get).currentNamed ["option"] then pop
        openTag tag
      else if tag.name = "optgroup" then finish do
        if (← get).currentNamed ["option"] then pop
        if (← get).currentNamed ["optgroup"] then pop
        openTag tag
      else if tag.name = "select" then
        if (← get).inScope endsSelectScope ["select"] then closeSelect
        return .done
      else if ["input", "keygen", "textarea"].contains tag.name then
        if (← get).inScope endsSelectScope ["select"] then
          popUntilNamed ["select"]
          return .again (← get).resetMode
        else return .done
      else if ["script", "template"].contains tag.name then finish (headTag tag)
      else return .done
  | .endTag name => do
      if name = "optgroup" then
        let b ← get
        if b.currentNamed ["option"] &&
            (b.opened[1]?).any (b.nameIs (isHtmlNamed ["optgroup"])) then
          pop
        if (← get).currentNamed ["optgroup"] then pop
        return .done
      else if name = "option" then
        if (← get).currentNamed ["option"] then pop
        return .done
      else if name = "select" then
        if (← get).inScope endsSelectScope ["select"] then closeSelect
        return .done
      else if name = "template" then finish closeTemplate
      else return .done

def inSelectInTable : Rule
  | .startTag tag => do
      if ["caption", "table", "tbody", "tfoot", "thead", "tr", "td", "th"].contains tag.name then
        popUntilNamed ["select"]
        return .again (← get).resetMode
      else inSelect (.startTag tag)
  | .endTag name => do
      if ["caption", "table", "tbody", "tfoot", "thead", "tr", "td", "th"].contains name then
        if (← get).inScope endsTableScope [name] then
          popUntilNamed ["select"]
          return .again (← get).resetMode
        else return .done
      else inSelect (.endTag name)
  | token => inSelect token

/-! Templates, frames and the end of the page. -/

def inTemplate : Rule
  | .startTag tag =>
      if headTags.contains tag.name then finish (headTag tag)
      else if ["caption", "colgroup", "tbody", "tfoot", "thead"].contains tag.name then
        become .inTable
      else if tag.name = "col" then become .inColumnGroup
      else if tag.name = "tr" then become .inTableBody
      else if ["td", "th"].contains tag.name then become .inRow
      else become .inBody
  | .endTag name => if name = "template" then finish closeTemplate else ignore
  | .stop => stopInTemplate
  | token => inBody token
where
  become (mode : Mode) : Build Outcome := do
    modify fun b => { b with templateModes := mode :: b.templateModes.drop 1 }
    return .again mode

def afterBody : Rule
  | .blank text => inBody (.blank text)
  | .comment text => do
      match (← get).htmlElement? with
      | some root => appendComment root text
      | none => pure ()
      return .done
  | .doctype _ => ignore
  | .startTag tag =>
      if tag.name = "html" then finish (mergeRoot tag) else return .again .inBody
  | .endTag name =>
      if name = "html" then finish (setMode .afterAfterBody) else return .again .inBody
  | .stop => ignore
  | _ => return .again .inBody

def inFrameset : Rule
  | .blank text => finish (insertText text)
  | .comment text => finish (insertComment text)
  | .startTag tag =>
      if tag.name = "html" then finish (mergeRoot tag)
      else if tag.name = "frameset" then finish (openTag tag)
      else if tag.name = "frame" then finish (insertTag tag)
      else if tag.name = "noframes" then finish (headTag tag)
      else ignore
  | .endTag name => do
      if name = "frameset" && (← get).opened.length ≠ 1 then
        pop
        if !(← get).currentNamed ["frameset"] then setMode .afterFrameset
      return .done
  | _ => ignore

def afterFrameset : Rule
  | .blank text => finish (insertText text)
  | .comment text => finish (insertComment text)
  | .startTag tag =>
      if tag.name = "html" then finish (mergeRoot tag)
      else if tag.name = "noframes" then finish (headTag tag)
      else ignore
  | .endTag name => if name = "html" then finish (setMode .afterAfterFrameset) else ignore
  | _ => ignore

def afterAfterBody : Rule
  | .blank text => inBody (.blank text)
  | .comment text => finish (appendComment 0 text)
  | .doctype _ => ignore
  | .startTag tag =>
      if tag.name = "html" then finish (mergeRoot tag) else return .again .inBody
  | .stop => ignore
  | _ => return .again .inBody

def afterAfterFrameset : Rule
  | .blank text => inBody (.blank text)
  | .comment text => finish (appendComment 0 text)
  | .startTag tag =>
      if tag.name = "html" then finish (mergeRoot tag)
      else if tag.name = "noframes" then finish (headTag tag)
      else ignore
  | _ => ignore

def Mode.rule : Mode → Rule
  | .initial => Html.initial
  | .beforeHtml => Html.beforeHtml
  | .beforeHead => Html.beforeHead
  | .inHead => Html.inHead
  | .afterHead => Html.afterHead
  | .inBody => Html.inBody
  | .text => Html.inRawText
  | .inTable => Html.inTable
  | .inTableText => Html.inTableText
  | .inCaption => Html.inCaption
  | .inColumnGroup => Html.inColumnGroup
  | .inTableBody => Html.inTableBody
  | .inRow => Html.inRow
  | .inCell => Html.inCell
  | .inSelect => Html.inSelect
  | .inSelectInTable => Html.inSelectInTable
  | .inTemplate => Html.inTemplate
  | .afterBody => Html.afterBody
  | .inFrameset => Html.inFrameset
  | .afterFrameset => Html.afterFrameset
  | .afterAfterBody => Html.afterAfterBody
  | .afterAfterFrameset => Html.afterAfterFrameset

/-! Drawings and formulas. -/

/-- Tags that never stand in a drawing or formula. -/
def breakoutTags : List String :=
  ["b", "big", "blockquote", "body", "br", "center", "code", "dd", "div", "dl", "dt", "em", "embed",
    "h1", "h2", "h3", "h4", "h5", "h6", "head", "hr", "i", "img", "li", "listing", "menu", "meta",
    "nobr", "ol", "p", "pre", "ruby", "s", "small", "span", "strong", "strike", "sub", "sup",
    "table", "tt", "u", "ul", "var"]

def breaksOut (tag : Tag) : Bool :=
  breakoutTags.contains tag.name ||
    (tag.name == "font" &&
      tag.attributes.any fun (name, _) => ["color", "face", "size"].contains name)

/-- Elements that content of the page may stand in. -/
def holdsMarkup (name : ElementName) : Bool :=
  name.space == .html || isFormulaText name || isDrawingText name

/-- Leaves the current element and all around it that belong to a drawing or formula. -/
def leaveForeign : Build Outcome := do
  modify fun b =>
    { b with opened := (b.opened.drop 1).dropWhile fun id => !b.nameIs holdsMarkup id }
  return .retry

/-- Closes the innermost element of a name in any spelling, up to an element of the page. -/
def closeForeign (name : String) (first : Bool) : List Nat → Build Outcome
  | [] => return .done
  | [_] => return .done
  | id :: rest => do
      let b ← get
      match b.arena.elementName? id with
      | none => return .done
      | some found =>
          if !first && found.space == .html then b.mode.rule (.endTag name)
          else if lowered found.name == name then do
            modify fun b => { b with opened := rest }
            return .done
          else closeForeign name false rest

def foreignRule : Rule
  | .null => finish (insertText ['\uFFFD'])
  | .blank text => finish (insertText text)
  | .chars text => finish do
      forbidFrameset
      insertText text
  | .comment text => finish (insertComment text)
  | .startTag tag => do
      if breaksOut tag then leaveForeign
      else
        let b ← get
        let space := ((b.opened.head?.bind b.arena.elementName?).map ElementName.space).getD .html
        finish (openForeign space tag)
  | .endTag name => do closeForeign name true (← get).opened
  | _ => ignore

def Builder.isForeign (b : Builder) (token : Token) : Bool :=
  match b.opened.head?.bind b.arena.elementName? with
  | none => false
  | some name =>
      if name.space == .html then false
      else match token with
        | .stop => false
        | .doctype _ => false
        | .startTag tag =>
            !(isDrawingText name ||
              (isFormulaText name && tag.name ≠ "mglyph" && tag.name ≠ "malignmark") ||
              (name == ⟨.math, "annotation-xml"⟩ && tag.name == "svg"))
        | .endTag _ => true
        | .comment _ => true
        | _ => !(isDrawingText name || isFormulaText name)

end GigListings.Html
