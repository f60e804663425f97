import Scanning.Text.Number

namespace Scanning.CommandLine

/-- Why a command line is not carried out: it asks for help, or it is not understood. -/
inductive Exit where
  | help
  | usage
  deriving DecidableEq, Repr

/-- The exit code of a command line that is not carried out. -/
def Exit.code : Exit → Nat
  | help => 0
  | usage => 2

/-- What an option does to the settings. -/
inductive Effect (α : Type) where
  | help
  | switch (set : α → α)
  /-- An option that takes a number. -/
  | number (set : Int → α → α)

/-- An option, with its names written without dashes. Only options without a value have a short
name. -/
structure Flag (α : Type) where
  long : String
  short : Option Char := none
  effect : Effect α

/-- An argument as it is understood. -/
inductive Word (α : Type) where
  | operand (text : String)
  | separator
  | flag (effect : Effect α)
  | assigned (effect : Effect α) (value : String)
  /-- Short options in one word, and whether the word holds nothing else. -/
  | cluster (effects : List (Effect α)) (isComplete : Bool)
  | unknown
  /-- Short options, which take no value, with a value or a dash attached. -/
  | malformed

variable {α : Type}

/-- The letters behind a short option. -/
def readCluster (short? : Char → Option (Effect α)) (effects : List (Effect α)) :
    List Char → Word α
  | [] => .cluster effects true
  | letter :: letters =>
    if letter == '=' || letter == '-' then .malformed
    else match short? letter with
      | some effect => readCluster short? (effects ++ [effect]) letters
      | none => .cluster effects false

/-- Whether a dash and these characters are a negative number. A newline at the end is no
hindrance. -/
def isNumeral (chars : List Char) : Bool :=
  let chars := if chars.getLast? == some '\n' then chars.dropLast else chars
  let whole := chars.takeWhile Unicode.isDecimal
  match chars.drop whole.length with
  | [] => !whole.isEmpty
  | '.' :: places => !places.isEmpty && places.all Unicode.isDecimal
  | _ => false

/-- An argument with one dash. Negative numbers and arguments with spaces are operands. -/
def readShort (flags : List (Flag α)) (letter : Char) (letters : List Char) : Word α :=
  let short? (letter : Char) := (flags.find? (·.short == some letter)).map (·.effect)
  match short? letter with
  | some effect => readCluster short? [effect] letters
  | none =>
    if isNumeral (letter :: letters) || (letter :: letters).contains ' ' then
      .operand (String.ofList ('-' :: letter :: letters))
    else .unknown

/-- The word for a long option, with its value if one is attached. -/
def Word.ofFlag (flag : Flag α) : Option String → Word α
  | some value => .assigned flag.effect value
  | none => .flag flag.effect

/-- An argument with two dashes. It may be the beginning of a name, but of one name only. -/
def readLong (flags : List (Flag α)) (chars : List Char) : Except Exit (Word α) :=
  let name := chars.takeWhile (· != '=')
  let value := match chars.drop name.length with
    | [] => none
    | _ :: value => some (String.ofList value)
  match flags.find? (·.long.toList == name) with
  | some flag => .ok (.ofFlag flag value)
  | none =>
    match flags.filter (name.isPrefixOf ·.long.toList) with
    | [flag] => .ok (.ofFlag flag value)
    | [] =>
      .ok (if chars.contains ' ' then .operand (String.ofList ('-' :: '-' :: chars)) else .unknown)
    | _ => .error .usage

/-- A single argument. -/
def readWord (flags : List (Flag α)) (argument : String) : Except Exit (Word α) :=
  match argument.toList with
  | '-' :: '-' :: chars => readLong flags chars
  | '-' :: letter :: letters => .ok (readShort flags letter letters)
  | _ => .ok (.operand argument)

/-- All arguments. -/
def readWords (flags : List (Flag α)) : List String → Except Exit (List (Word α))
  | [] => .ok []
  | argument :: rest =>
    if argument == "--" then .ok (.separator :: rest.map .operand)
    else do
      let word ← readWord flags argument
      let words ← readWords flags rest
      return word :: words

/-- What has been gathered from the arguments so far: the settings, the operand, and whether there
was anything that has no place. -/
structure Gathered (α : Type) where
  settings : α
  operand : Option String := none
  hasSurplus : Bool := false

namespace Gathered

/-- A further operand. Only the first one has a place. -/
def give (gathered : Gathered α) (text : String) : Gathered α :=
  match gathered.operand with
  | none => { gathered with operand := some text }
  | some _ => { gathered with hasSurplus := true }

/-- A number for an option that takes one. -/
def number (gathered : Gathered α) (set : Int → α → α) (text : String) :
    Except Exit (Gathered α) :=
  match Text.readInt? text with
  | some n => .ok { gathered with settings := set n gathered.settings }
  | none => .error .usage

/-- An option on its own. -/
def obey (gathered : Gathered α) : Effect α → Except Exit (Gathered α)
  | .help => .error .help
  | .switch set => .ok { gathered with settings := set gathered.settings }
  | .number _ => .error .usage

/-- The next word. A separator has a place in front of the operand only. -/
def accept (gathered : Gathered α) : Word α → Except Exit (Gathered α)
  | .operand text => .ok (gathered.give text)
  | .separator => .ok { gathered with
      hasSurplus := gathered.hasSurplus || gathered.operand.isSome }
  | .flag effect => gathered.obey effect
  | .assigned (.number set) text => gathered.number set text
  | .assigned _ _ => .error .usage
  | .cluster effects isComplete => do
    let gathered ← effects.foldlM obey gathered
    return { gathered with hasSurplus := gathered.hasSurplus || !isComplete }
  | .unknown => .ok { gathered with hasSurplus := true }
  | .malformed => .error .usage

/-- The words of a command with one operand, from left to right. A separator may also stand right
behind the operand. -/
def acceptAll (gathered : Gathered α) : List (Word α) → Except Exit (Gathered α)
  | [] => .ok gathered
  | .operand text :: .separator :: rest => (gathered.give text).acceptAll rest
  | .flag (.number set) :: .operand text :: rest => do
    (← gathered.number set text).acceptAll rest
  | word :: rest => do (← gathered.accept word).acceptAll rest

/-- The words in front of the first operand. Gives the arguments from there on. -/
def acceptLeading (gathered : Gathered α) :
    List (String × Word α) → Except Exit (Gathered α × List String)
  | [] => .error .usage
  | (_, .separator) :: _ => .error .usage
  | (argument, .operand _) :: rest => .ok (gathered, argument :: rest.map (·.1))
  | (_, word) :: rest => do (← gathered.accept word).acceptLeading rest

end Gathered

end Scanning.CommandLine
