import GigListings.Text.Ranges

namespace GigListings

/-! The arguments of a command: options, which begin with two hyphens, and operands. -/

/-- What an argument may be. Paths may not be empty. -/
inductive ArgumentKind where
  | text
  | path
deriving DecidableEq

def ArgumentKind.allows (kind : ArgumentKind) (value : String) : Bool := kind = .text || value ≠ ""

inductive OptionKind where
  | flag
  | value (kind : ArgumentKind)
deriving DecidableEq

structure ArgumentForm where
  options : List (String × OptionKind)
  operand? : Nat → Option ArgumentKind

/-- What was given to a command. No option is given twice. -/
structure Arguments where
  flags : List String
  values : List (String × String)
  operands : List String

namespace Arguments

def empty : Arguments := ⟨[], [], []⟩

def hasFlag (arguments : Arguments) (name : String) : Bool := arguments.flags.contains name

def value? (arguments : Arguments) (name : String) : Option String := arguments.values.lookup name

def addFlag? (arguments : Arguments) (name : String) : Option Arguments :=
  if arguments.hasFlag name then none
  else some { arguments with flags := arguments.flags ++ [name] }

def addValue? (arguments : Arguments) (name : String) (kind : ArgumentKind) (value : String) :
    Option Arguments :=
  if (arguments.value? name).isSome || !kind.allows value then none
  else some { arguments with values := arguments.values ++ [(name, value)] }

def addOperand? (arguments : Arguments) (form : ArgumentForm) (value : String) :
    Option Arguments :=
  match form.operand? arguments.operands.length with
  | some kind =>
      if kind.allows value then some { arguments with operands := arguments.operands ++ [value] }
      else none
  | none => none

end Arguments

inductive Word where
  | operand (text : String)
  /-- Two hyphens, behind which all words are operands. -/
  | divider
  | short (letters : List Char)
  | long (name : String) (value : Option String)

def Word.ofText (text : String) : Word :=
  match text.toList with
  | ['-', '-'] => .divider
  | '-' :: '-' :: rest =>
      let name := rest.takeWhile (· != '=')
      match rest.drop name.length with
      | [] => .long (String.ofList name) none
      | _ :: value => .long (String.ofList name) (some (String.ofList value))
  | ['-'] => .operand text
  | '-' :: letters => .short letters
  | _ => .operand text

/-- Asking for help ends the reading of a command line. -/
inductive CommandLine where
  | help
  | arguments (arguments : Arguments)

namespace ArgumentForm

def asksHelp (letters : List Char) : Bool := letters.head? == some 'h'

def readOperands? (form : ArgumentForm) (given : Arguments) (words : List String) :
    Option CommandLine :=
  (words.foldlM (Arguments.addOperand? · form ·) given).map .arguments

/-- Reads words from the left; none if one of them is out of place. The value of an option may be
the word behind it. -/
def read? (form : ArgumentForm) (given : Arguments) : List String → Option CommandLine
  | [] => some (.arguments given)
  | word :: rest =>
      match Word.ofText word with
      | .divider => form.readOperands? given rest
      | .operand value => do form.read? (← given.addOperand? form value) rest
      | .short letters => if asksHelp letters then some .help else none
      | .long "help" none => some .help
      | .long name value =>
          match form.options.lookup name, value, rest with
          | some .flag, none, rest => do form.read? (← given.addFlag? name) rest
          | some (.value kind), some value, rest => do
              form.read? (← given.addValue? name kind value) rest
          | some (.value kind), none, value :: rest =>
              match Word.ofText value with
              | .operand value => do form.read? (← given.addValue? name kind value) rest
              | _ => none
          | _, _, _ => none

end ArgumentForm

end GigListings
