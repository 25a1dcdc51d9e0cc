import GigListings.Html.Entity
import GigListings.Text.Case

namespace GigListings.Html

open Text

/-! The pieces of markup: tags, texts and comments. -/

structure Tag where
  name : String
  attributes : List (String × String)
  selfClosing : Bool
deriving Inhabited

inductive Token where
  /-- A document type, with whether it asks for old ways of laying out pages. -/
  | doctype (oldLayout : Bool)
  | startTag (tag : Tag)
  | endTag (name : String)
  | comment (text : String)
  /-- A run of white space. -/
  | blank (text : List Char)
  /-- A run without white space. -/
  | chars (text : List Char)
  | null
  | stop

/-- How text is read. All but the first are left at the named end tag. -/
inductive TextMode where
  | markup
  /-- References count, tags do not. -/
  | escapable (closing : String)
  | raw (closing : String)
  | script
  | plain

def isSpace (c : Char) : Bool := c == ' ' || c == '\n' || c == '\t' || c == '\x0c' || c == '\r'

/-- Carriage returns become line feeds, alone or with one; a byte order mark at the start goes. -/
def normalizeBreaks : List Char → List Char
  | '\r' :: '\n' :: rest => '\n' :: normalizeBreaks rest
  | '\r' :: rest => '\n' :: normalizeBreaks rest
  | c :: rest => c :: normalizeBreaks rest
  | [] => []

def preprocessed (text : List Char) : List Char :=
  normalizeBreaks (match text with
    | '\uFEFF' :: rest => rest
    | text => text)

def replaceNull (c : Char) : Char := if c == '\x00' then '\uFFFD' else c

def nameOf (text : List Char) : String :=
  String.ofList (text.map fun c => replaceNull (asciiLower c))

def textTokens (text : List Char) : List Token :=
  match text with
  | [] => []
  | c :: rest =>
      let run := c :: rest.takeWhile fun d => isSpace d == isSpace c
      (if isSpace c then .blank run else .chars run) ::
        textTokens (rest.dropWhile fun d => isSpace d == isSpace c)
termination_by text.length
decreasing_by
  have := (List.dropWhile_suffix (fun d => isSpace d == isSpace c) (l := rest)).length_le
  simp only [List.length_cons]
  omega

/-! Tags. A tag that the page ends in is dropped. -/

def endsName (c : Char) : Bool := isSpace c || c == '/' || c == '>'

def attributeValue? (text : List Char) : Option (List Char × List Char) :=
  match text.dropWhile isSpace with
  | [] => none
  | '>' :: rest => some ([], '>' :: rest)
  | '"' :: rest => quoted '"' rest
  | '\'' :: rest => quoted '\'' rest
  | rest => some (rest.takeWhile unquoted, rest.dropWhile unquoted)
where
  quoted (mark : Char) (text : List Char) : Option (List Char × List Char) :=
    match text.dropWhile (· != mark) with
    | _ :: rest => some (text.takeWhile (· != mark), rest)
    | [] => none
  unquoted (c : Char) : Bool := !(isSpace c || c == '>')

def attributeText (value : List Char) : String :=
  String.ofList (decodeReferences true (value.map replaceNull))

/-- Of two attributes with one name the first counts. -/
def addAttribute (attributes : List (String × String)) (name value : String) :
    List (String × String) :=
  if (attributes.lookup name).isSome then attributes else attributes ++ [(name, value)]

def attributesUpTo : (fuel : Nat) → List (String × String) → List Char →
    Option (List (String × String) × Bool × List Char)
  | 0, _, _ => none
  | fuel + 1, found, text =>
      match text.dropWhile isSpace with
      | [] => none
      | '>' :: rest => some (found, false, rest)
      | '/' :: '>' :: rest => some (found, true, rest)
      | '/' :: rest => attributesUpTo fuel found rest
      | c :: rest =>
          let inName (d : Char) : Bool := !(endsName d || d == '=')
          let name := nameOf (c :: rest.takeWhile inName)
          match (rest.dropWhile inName).dropWhile isSpace with
          | '=' :: rest =>
              match attributeValue? rest with
              | some (value, rest) =>
                  attributesUpTo fuel (addAttribute found name (attributeText value)) rest
              | none => none
          | rest => attributesUpTo fuel (addAttribute found name "") rest

/-- A tag whose name comes next. -/
def tag? (text : List Char) : Option (Tag × List Char) :=
  let name := text.takeWhile fun c => !endsName c
  (attributesUpTo (text.length + 1) [] (text.drop name.length)).map
    fun (attributes, selfClosing, rest) => (⟨nameOf name, attributes, selfClosing⟩, rest)

/-! Comments. -/

/-- Where in a comment the scanner is: what it has seen may belong to the comment's end. -/
inductive CommentState where
  | start
  | startDash
  | inside
  | dash
  | dashes
  | bang

def commentText : CommentState → List Char → List Char × List Char
  | _, [] => ([], [])
  | state, c :: rest =>
      let keep (lead : List Char) : List Char × List Char :=
        let (text, rest) := commentText .inside rest
        (lead ++ replaceNull c :: text, rest)
      match state, c with
      | .start, '-' => commentText .startDash rest
      | .start, '>' => ([], rest)
      | .start, _ => keep []
      | .startDash, '-' => commentText .dashes rest
      | .startDash, '>' => ([], rest)
      | .startDash, _ => keep ['-']
      | .inside, '-' => commentText .dash rest
      | .inside, _ => keep []
      | .dash, '-' => commentText .dashes rest
      | .dash, _ => keep ['-']
      | .dashes, '>' => ([], rest)
      | .dashes, '!' => commentText .bang rest
      | .dashes, '-' =>
          let (text, rest) := commentText .dashes rest
          ('-' :: text, rest)
      | .dashes, _ => keep ['-', '-']
      | .bang, '-' =>
          let (text, rest) := commentText .dash rest
          ('-' :: '-' :: '!' :: text, rest)
      | .bang, '>' => ([], rest)
      | .bang, _ => keep ['-', '-', '!']

def commentToken (text : List Char) : Token := .comment (String.ofList text)

def bogusComment (text : List Char) : List Token × List Char :=
  ([commentToken ((text.takeWhile (· != '>')).map replaceNull)],
    (text.dropWhile (· != '>')).drop 1)

/-! Document types. -/

structure Doctype where
  name : String
  publicId : Option String
  systemId : Option String
  malformed : Bool

/-- Public identifiers, in lower case, of pages from before there was a standard. -/
def oldPublicIds : List String :=
  ["-//w3o//dtd w3 html strict 3.0//en//", "-/w3c/dtd html 4.0 transitional/en", "html"]

def oldSystemId : String := "http://www.ibm.com/data/dtd/v11/ibmxhtml1-transitional.dtd"

def oldPublicLeads : List String :=
  ["+//silmaril//dtd html pro v0r11 19970101//",
    "-//advasoft ltd//dtd html 3.0 aswedit + extensions//",
    "-//as//dtd html 3.0 aswedit + extensions//",
    "-//ietf//dtd html 2.0 level 1//", "-//ietf//dtd html 2.0 level 2//",
    "-//ietf//dtd html 2.0 strict level 1//", "-//ietf//dtd html 2.0 strict level 2//",
    "-//ietf//dtd html 2.0 strict//", "-//ietf//dtd html 2.0//", "-//ietf//dtd html 2.1e//",
    "-//ietf//dtd html 3.0//", "-//ietf//dtd html 3.2 final//", "-//ietf//dtd html 3.2//",
    "-//ietf//dtd html 3//", "-//ietf//dtd html level 0//", "-//ietf//dtd html level 1//",
    "-//ietf//dtd html level 2//", "-//ietf//dtd html level 3//",
    "-//ietf//dtd html strict level 0//", "-//ietf//dtd html strict level 1//",
    "-//ietf//dtd html strict level 2//", "-//ietf//dtd html strict level 3//",
    "-//ietf//dtd html strict//", "-//ietf//dtd html//",
    "-//metrius//dtd metrius presentational//",
    "-//microsoft//dtd internet explorer 2.0 html strict//",
    "-//microsoft//dtd internet explorer 2.0 html//",
    "-//microsoft//dtd internet explorer 2.0 tables//",
    "-//microsoft//dtd internet explorer 3.0 html strict//",
    "-//microsoft//dtd internet explorer 3.0 html//",
    "-//microsoft//dtd internet explorer 3.0 tables//",
    "-//netscape comm. corp.//dtd html//", "-//netscape comm. corp.//dtd strict html//",
    "-//o'reilly and associates//dtd html 2.0//",
    "-//o'reilly and associates//dtd html extended 1.0//",
    "-//o'reilly and associates//dtd html extended relaxed 1.0//",
    "-//softquad software//dtd hotmetal pro 6.0::19990601::extensions to html 4.0//",
    "-//softquad//dtd hotmetal pro 4.0::19971010::extensions to html 4.0//",
    "-//spyglass//dtd html 2.0 extended//", "-//sq//dtd html 2.0 hotmetal + extensions//",
    "-//sun microsystems corp.//dtd hotjava html//",
    "-//sun microsystems corp.//dtd hotjava strict html//",
    "-//w3c//dtd html 3 1995-03-24//", "-//w3c//dtd html 3.2 draft//",
    "-//w3c//dtd html 3.2 final//", "-//w3c//dtd html 3.2//", "-//w3c//dtd html 3.2s draft//",
    "-//w3c//dtd html 4.0 frameset//", "-//w3c//dtd html 4.0 transitional//",
    "-//w3c//dtd html experimental 19960712//", "-//w3c//dtd html experimental 970421//",
    "-//w3c//dtd w3 html//", "-//w3o//dtd w3 html 3.0//",
    "-//webtechs//dtd mozilla html 2.0//", "-//webtechs//dtd mozilla html//"]

/-- Public identifiers that count as old only without a system identifier. -/
def bareOldPublicLeads : List String :=
  ["-//w3c//dtd html 4.01 frameset//", "-//w3c//dtd html 4.01 transitional//"]

def startsWithAny (leads : List String) (text : String) : Bool :=
  leads.any fun lead => lead.toList.isPrefixOf text.toList

def lowered (text : String) : String := String.ofList (text.toList.map asciiLower)

def Doctype.oldLayout (doctype : Doctype) : Bool :=
  let publicId := doctype.publicId.map lowered
  let systemId := doctype.systemId.map lowered
  doctype.malformed || doctype.name ≠ "html" || publicId.any oldPublicIds.contains ||
    systemId == some oldSystemId || publicId.any (startsWithAny oldPublicLeads) ||
    (systemId.isNone && publicId.any (startsWithAny bareOldPublicLeads))

/-- An identifier between quotes, or one that is broken off. -/
inductive Identifier where
  | complete (text : String) (rest : List Char)
  | broken (text : String) (rest : List Char)
  | missing (rest : List Char)

def identifier (text : List Char) : Identifier :=
  match text.dropWhile isSpace with
  | '"' :: rest => quoted '"' rest
  | '\'' :: rest => quoted '\'' rest
  | rest => .missing rest
where
  quoted (mark : Char) (text : List Char) : Identifier :=
    let inside (c : Char) : Bool := c != mark && c != '>'
    let name := String.ofList ((text.takeWhile inside).map replaceNull)
    match text.dropWhile inside with
    | c :: rest => if c = mark then .complete name rest else .broken name rest
    | [] => .broken name []

def afterBracket (text : List Char) : List Char := (text.dropWhile (· != '>')).drop 1

/-- What follows a complete document type: nothing but its bracket, or something that is skipped. -/
def closeDoctype (doctype : Doctype) (strict : Bool) (text : List Char) : Doctype × List Char :=
  match text.dropWhile isSpace with
  | '>' :: rest => (doctype, rest)
  | [] => ({ doctype with malformed := true }, [])
  | rest => ({ doctype with malformed := strict }, afterBracket rest)

def systemPart (doctype : Doctype) (required : Bool) (text : List Char) : Doctype × List Char :=
  match identifier text with
  | .complete name rest => closeDoctype { doctype with systemId := some name } false rest
  | .broken name rest => ({ doctype with systemId := some name, malformed := true }, rest)
  | .missing ('>' :: rest) => ({ doctype with malformed := required }, rest)
  | .missing rest => closeDoctype { doctype with malformed := true } true rest

def publicPart (doctype : Doctype) (text : List Char) : Doctype × List Char :=
  match identifier text with
  | .complete name rest => systemPart { doctype with publicId := some name } false rest
  | .broken name rest => ({ doctype with publicId := some name, malformed := true }, rest)
  | .missing rest => closeDoctype { doctype with malformed := true } true rest

def doctypeAfterName (doctype : Doctype) (text : List Char) : Doctype × List Char :=
  let text := text.dropWhile isSpace
  match afterFolded? asciiLower "public".toList text with
  | some rest => publicPart doctype rest
  | none =>
      match afterFolded? asciiLower "system".toList text with
      | some rest => systemPart doctype true rest
      | none => closeDoctype doctype true text

def doctype (text : List Char) : Doctype × List Char :=
  let text := text.dropWhile isSpace
  let inName (c : Char) : Bool := !(isSpace c || c == '>')
  let name := text.takeWhile inName
  doctypeAfterName ⟨nameOf name, none, none, name = []⟩ (text.drop name.length)

/-! Text that is not markup. -/

def closesHere (closing : String) (text : List Char) : Bool :=
  match afterLead? ['<', '/'] text with
  | some rest =>
      let name := rest.take closing.length
      nameOf name == closing && name.length == closing.length &&
        match rest.drop closing.length with
        | c :: _ => endsName c
        | [] => false
  | none => false

def rawText (closing : String) : List Char → List Char × List Char
  | [] => ([], [])
  | c :: rest =>
      if c == '<' && closesHere closing (c :: rest) then ([], c :: rest)
      else
        let (text, rest) := rawText closing rest
        (replaceNull c :: text, rest)

/-- How far a script is inside of a comment, and inside of a script in it. -/
inductive ScriptState where
  | outside
  | escaped (dashes : Nat)
  | doubled (dashes : Nat)

def namesScript (text : List Char) : Bool :=
  nameOf (text.take 6) == "script" &&
    match text.drop 6 with
    | c :: _ => endsName c
    | [] => false

def ScriptState.next (state : ScriptState) (text : List Char) : ScriptState :=
  match state, text with
  | .outside, '<' :: '!' :: '-' :: '-' :: _ => .escaped 0
  | .outside, _ => .outside
  | .escaped dashes, '-' :: _ => .escaped (dashes + 1)
  | .escaped dashes, '>' :: _ => if 2 ≤ dashes then .outside else .escaped 0
  | .escaped _, '<' :: rest => if namesScript rest then .doubled 0 else .escaped 0
  | .escaped _, _ => .escaped 0
  | .doubled dashes, '-' :: _ => .doubled (dashes + 1)
  | .doubled dashes, '>' :: _ => if 2 ≤ dashes then .outside else .doubled 0
  | .doubled _, '<' :: '/' :: rest => if namesScript rest then .escaped 0 else .doubled 0
  | .doubled _, _ => .doubled 0

def ScriptState.endsAtTag : ScriptState → Bool
  | doubled _ => false
  | _ => true

def scriptText : ScriptState → List Char → List Char × List Char
  | _, [] => ([], [])
  | state, c :: rest =>
      if state.endsAtTag && c == '<' && closesHere "script" (c :: rest) then ([], c :: rest)
      else
        let (text, after) := scriptText (state.next (c :: rest)) rest
        (replaceNull c :: text, after)

/-! Reading on. -/

def tagTokens (make : Tag → Token) (text : List Char) : List Token × List Char :=
  match tag? text with
  | some (tag, rest) => ([make tag], rest)
  | none => ([], [])

def startsWithLetter : List Char → Bool
  | c :: _ => isAsciiLetter c
  | [] => false

def characterData : List Char → List Char × List Char
  | ']' :: ']' :: '>' :: rest => ([], rest)
  | c :: rest =>
      let (text, rest) := characterData rest
      (c :: text, rest)
  | [] => ([], [])

def nullTokens : List (List Char) → List Token
  | [] => []
  | [text] => textTokens text
  | text :: rest => textTokens text ++ .null :: nullTokens rest

def declaration (foreign : Bool) (text : List Char) : List Token × List Char :=
  match text with
  | '-' :: '-' :: rest =>
      let (text, rest) := commentText .start rest
      ([commentToken text], rest)
  | text =>
      match afterFolded? asciiLower "doctype".toList text with
      | some rest =>
          let (doctype, rest) := doctype rest
          ([.doctype doctype.oldLayout], rest)
      | none =>
          match if foreign then afterLead? "[CDATA[".toList text else none with
          | some rest =>
              let (text, rest) := characterData rest
              (nullTokens (splitOn (· == '\x00') text), rest)
          | none => bogusComment text

def afterOpening (foreign : Bool) (text : List Char) : List Token × List Char :=
  match text with
  | '!' :: rest => declaration foreign rest
  | '/' :: [] => ([.chars ['<', '/']], [])
  | '/' :: '>' :: rest => ([], rest)
  | '/' :: rest =>
      if startsWithLetter rest then tagTokens (fun tag => .endTag tag.name) rest
      else bogusComment rest
  | '?' :: _ => bogusComment text
  | text =>
      if startsWithLetter text then tagTokens .startTag text
      else ([.chars ['<']], text)

def closedText (text rest : List Char) : List Token × List Char :=
  match rest with
  | '<' :: rest =>
      let (tokens, rest) := afterOpening false rest
      (textTokens text ++ tokens, rest)
  | rest => (textTokens text, rest)

def inText (c : Char) : Bool := c != '<' && c != '\x00'

def nextTokens (mode : TextMode) (foreign : Bool) (text : List Char) : List Token × List Char :=
  match mode, text with
  | _, [] => ([], [])
  | .markup, '\x00' :: rest => ([.null], rest)
  | .markup, '<' :: rest => afterOpening foreign rest
  | .markup, text =>
      (textTokens (decodeReferences false (text.takeWhile inText)), text.dropWhile inText)
  | .escapable closing, text =>
      let (text, rest) := rawText closing text
      closedText (decodeReferences false text) rest
  | .raw closing, text =>
      let (text, rest) := rawText closing text
      closedText text rest
  | .script, text =>
      let (text, rest) := scriptText .outside text
      closedText text rest
  | .plain, text => (textTokens (text.map replaceNull), [])

end GigListings.Html
