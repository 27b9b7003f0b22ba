/-!
# Command words

The words of a command line as options and operands. An option has a long name after two
dashes, and some have a letter after one dash; the letters of several options can stand
together in one word. The value of an option is in its word or is the next word. Two
dashes alone end the options, and a dash alone is an operand.
-/

namespace ColumnChain.CommandLine

/-- An option that a command has. -/
structure Flag where
  name : String
  letter : Option Char
  takesValue : Bool

namespace Flag

/-- An option that is given or not. -/
def switch (name : String) (letter : Option Char) : Flag :=
  ⟨name, letter, false⟩

/-- An option that is given with a value. -/
def valued (name : String) (letter : Option Char) : Flag :=
  ⟨name, letter, true⟩

end Flag

/-- An option that was given. -/
structure Given where
  name : String
  /-- The value, empty for an option that takes none. -/
  value : String
  deriving DecidableEq

/-- What the words of a command line say. -/
structure Words where
  given : List Given
  operands : List String
  deriving DecidableEq

/-- What a single word says. -/
inductive Word where
  | operand
  /-- The options are over. -/
  | stop
  /-- Some options, the last of which may wait for its value. -/
  | options (given : List Given) (waiting : Option String)

/-- Cut a text in front of its first equals sign. -/
def cutValue (text : List Char) : List Char × Option (List Char) :=
  match text.dropWhile (· != '=') with
  | [] => (text, none)
  | _ :: value => (text.takeWhile (· != '='), some value)

/-- Read what follows two dashes: the long name of an option and perhaps its value. -/
def readLong? (flags : List Flag) (text : List Char) : Option Word := do
  let (name, value) := cutValue text
  let flag ← flags.find? fun flag => flag.name == String.ofList name
  match flag.takesValue, value with
  | false, none => some (.options [⟨flag.name, ""⟩] none)
  | false, some _ => none
  | true, none => some (.options [] (some flag.name))
  | true, some value => some (.options [⟨flag.name, String.ofList value⟩] none)

/-- Read what follows a dash: the letters of options, up to the first one that takes a
value, and then this value, if it is there. An equals sign may stand before it. -/
def readLetters? (flags : List Flag) : List Char → Option Word
  | [] => some (.options [] none)
  | letter :: rest => do
      let flag ← flags.find? fun flag => flag.letter == some letter
      if flag.takesValue then
        match rest with
        | [] => some (.options [] (some flag.name))
        | '=' :: value | value =>
            some (.options [⟨flag.name, String.ofList value⟩] none)
      else match ← readLetters? flags rest with
        | .options given waiting => some (.options (⟨flag.name, ""⟩ :: given) waiting)
        | other => some other

/-- Read a single word. -/
def readWord? (flags : List Flag) (word : String) : Option Word :=
  match word.toList with
  | ['-'] => some .operand
  | ['-', '-'] => some .stop
  | '-' :: '-' :: text => readLong? flags text
  | '-' :: letters => readLetters? flags letters
  | _ => some .operand

/-- Whether a word can be the value of an option before it. -/
def isPlain (word : String) : Bool :=
  word.toList.head? != some '-' || word == "-"

/-- Options and then what other words say. -/
def Words.after (given : List Given) (words : Words) : Words :=
  { words with given := given ++ words.given }

/-- Where operands stand. -/
inductive Placement where
  /-- Options and operands are mixed, and the options can be ended. -/
  | mixed
  /-- All words from the first operand on are operands. -/
  | last

/-- Read words one after the other. -/
def readWords? (flags : List Flag) (placement : Placement) : List String → Option Words
  | [] => some ⟨[], []⟩
  | word :: rest => do
      match ← readWord? flags word, placement with
      | .operand, .last => some ⟨[], word :: rest⟩
      | .stop, .last => none
      | .operand, .mixed =>
          let words ← readWords? flags placement rest
          some { words with operands := word :: words.operands }
      | .stop, .mixed => some ⟨[], rest⟩
      | .options given none, _ => (readWords? flags placement rest).map (Words.after given)
      | .options given (some name), _ =>
          match rest with
          | [] => none
          | value :: rest =>
              if isPlain value then
                (readWords? flags placement rest).map
                  (Words.after (given ++ [⟨name, value⟩]))
              else none

namespace Words

/-- Whether no option is given twice. -/
def isDistinct (words : Words) : Bool :=
  (words.given.map Given.name).Nodup

/-- Whether an option is given. -/
def has (words : Words) (name : String) : Bool :=
  words.given.any fun given => given.name == name

/-- The value of an option that is given. -/
def value? (words : Words) (name : String) : Option String :=
  (words.given.find? fun given => given.name == name).map Given.value

end Words
end ColumnChain.CommandLine
