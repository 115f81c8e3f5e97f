/-
Parameters of command lines that are given by name: by a long name behind two
dashes, or by a letter behind one. A value follows as the next word, behind an
equals sign, or directly behind the letter.
-/

import ArtifactCatalog.Text.Cut

namespace ArtifactCatalog.Command

structure Parameter where
  name : String
  letter : Option Char := none
  takesValue : Bool := true
  mayBeEmpty : Bool := true
deriving DecidableEq, Repr

inductive Halt where
  | misuse
  | help
  | version
deriving DecidableEq, Repr

abbrev Given := List (Parameter × String)

def Given.value? (given : Given) (parameter : Parameter) : Option String :=
  List.lookup parameter given

def Given.has (given : Given) (parameter : Parameter) : Bool :=
  (given.value? parameter).isSome

def Given.add (given : Given) (parameter : Parameter) (value : String) : Except Halt Given :=
  if given.has parameter ∨ (value = "" ∧ parameter.takesValue ∧ !parameter.mayBeEmpty) then
    .error .misuse
  else .ok (given ++ [(parameter, value)])

inductive Word where
  | plain
  | separator
  | long (name : String) (attached : Option String)
  | short (letter : Char) (attached : Option String)
deriving DecidableEq, Repr

/-- The value behind a letter; an equals sign in front of it is dropped. -/
def attachedValue? : List Char → Option String
  | [] => none
  | '=' :: rest => some (String.ofList rest)
  | rest => some (String.ofList rest)

def Word.ofString (word : String) : Word :=
  match word.toList with
  | ['-', '-'] => separator
  | '-' :: '-' :: rest =>
    match Text.cutFirst '=' rest with
    | some (name, value) => long (String.ofList name) (some (String.ofList value))
    | none => long (String.ofList rest) none
  | '-' :: letter :: rest => short letter (attachedValue? rest)
  | _ => plain

structure Grammar where
  parameters : List Parameter
  tellsVersion : Bool := false

def Grammar.haltNamed? (grammar : Grammar) (name : String) : Option Halt :=
  if name = "help" then some .help
  else if name = "version" ∧ grammar.tellsVersion then some .version
  else none

def Grammar.haltLetter? (grammar : Grammar) (letter : Char) : Option Halt :=
  if letter = 'h' then some .help
  else if letter = 'V' ∧ grammar.tellsVersion then some .version
  else none

/-- Adds a parameter with the value that is attached to it. The parameter is
given back where its value is still to come. -/
def Given.begin (given : Given) (parameter : Parameter) (attached : Option String) :
    Except Halt (Given × Option Parameter) :=
  match parameter.takesValue, attached with
  | false, none => (given.add parameter "").map (·, none)
  | false, some _ => .error .misuse
  | true, some value => (given.add parameter value).map (·, none)
  | true, none => .ok (given, some parameter)

def Grammar.addNamed (grammar : Grammar) (given : Given) :
    Word → Except Halt (Given × Option Parameter)
  | .plain | .separator => .error .misuse
  | .long name attached =>
    match grammar.parameters.find? (·.name = name), grammar.haltNamed? name with
    | some parameter, _ => given.begin parameter attached
    | none, some halt => .error (if attached.isNone then halt else .misuse)
    | none, none => .error .misuse
  | .short letter attached =>
    match grammar.parameters.find? (·.letter = some letter), grammar.haltLetter? letter with
    | some parameter, _ => given.begin parameter attached
    | none, some halt => .error halt
    | none, none => .error .misuse

/-- Reads the parameters at the start of a line, and gives the words behind
them. `pending` waits for its value, which is never itself a word by name. -/
def Grammar.read (grammar : Grammar) (given : Given) (pending : Option Parameter) :
    List String → Except Halt (Given × List String)
  | [] =>
    match pending with
    | some _ => .error .misuse
    | none => .ok (given, [])
  | word :: rest =>
    match pending, Word.ofString word with
    | some parameter, .plain => do
      let given ← given.add parameter word
      grammar.read given none rest
    | some _, _ => .error .misuse
    | none, .plain | none, .separator => .ok (given, word :: rest)
    | none, named => do
      let (given, pending) ← grammar.addNamed given named
      grammar.read given pending rest

end ArtifactCatalog.Command
