import GigListings.Command.Arguments

namespace GigListings

/-! What can be asked for on the command line. -/

inductive PageSupply where
  /-- A browser at an address, or at the one of the settings. -/
  | webDriver (address : Option String)
  | web
  | folder (path : String)
deriving DecidableEq

inductive Command where
  | help
  | version
  | list (folder : Option String) (detailed : Bool)
  | validate (file : String) (fix : Bool)
  | create (name baseUrl : String) (source : Option String)
  | scrape (files : List String) (pages : PageSupply) (output : Option String)
deriving DecidableEq

namespace Command

def listForm : ArgumentForm where
  options := [("dir", .value .path), ("detailed", .flag)]
  operand? _ := none

def validateForm : ArgumentForm where
  options := [("fix", .flag)]
  operand? position := [ArgumentKind.path][position]?

def createForm : ArgumentForm where
  options := [("source", .value .text)]
  operand? position := [ArgumentKind.text, .text][position]?

def scrapeForm : ArgumentForm where
  options := [("webdriver", .value .text), ("static", .flag), ("fixtures", .value .path),
    ("output", .value .path)]
  operand? _ := some .path

/-- Pages come from one place only. -/
def pageSupply? (arguments : Arguments) : Option PageSupply :=
  match arguments.value? "webdriver", arguments.hasFlag "static", arguments.value? "fixtures" with
  | address, false, none => some (.webDriver address)
  | none, true, none => some .web
  | none, false, some folder => some (.folder folder)
  | _, _, _ => none

def listOf? (arguments : Arguments) : Option Command :=
  some (.list (arguments.value? "dir") (arguments.hasFlag "detailed"))

def validateOf? (arguments : Arguments) : Option Command :=
  match arguments.operands with
  | [file] => some (.validate file (arguments.hasFlag "fix"))
  | _ => none

def createOf? (arguments : Arguments) : Option Command :=
  match arguments.operands with
  | [name, baseUrl] => some (.create name baseUrl (arguments.value? "source"))
  | _ => none

def scrapeOf? (arguments : Arguments) : Option Command := do
  let pages ← pageSupply? arguments
  match arguments.operands with
  | [] => none
  | files => return .scrape files pages (arguments.value? "output")

def read? (form : ArgumentForm) (command? : Arguments → Option Command) (words : List String) :
    Option Command :=
  match form.read? Arguments.empty words with
  | some .help => some .help
  | some (.arguments arguments) => command? arguments
  | none => none

def helpOn? (commands : List (List String)) (names : List String) : Option Command :=
  if commands.contains names then some .help else none

def configNames : List (List String) := [[], ["list"], ["validate"], ["create"], ["help"]]

def names : List (List String) := [] :: ["scrape"] :: ["help"] :: configNames.map ("config" :: ·)

def ofOption? (versioned : Bool) (word : String) : Option Command :=
  match Word.ofText word with
  | .long "help" none => some .help
  | .long "version" none => if versioned then some .version else none
  | .short ('h' :: _) => some .help
  | .short ('V' :: _) => if versioned then some .version else none
  | _ => none

def ofConfigWords? : List String → Option Command
  | "list" :: words => read? listForm listOf? words
  | "validate" :: words => read? validateForm validateOf? words
  | "create" :: words => read? createForm createOf? words
  | "help" :: words => helpOn? configNames words
  | word :: _ => ofOption? false word
  | [] => none

def ofWords? : List String → Option Command
  | "config" :: words => ofConfigWords? words
  | "scrape" :: words => read? scrapeForm scrapeOf? words
  | "help" :: words => helpOn? names words
  | word :: _ => ofOption? true word
  | [] => none

end Command

end GigListings
