import PfaScript.Text.Digit

/-!
# Options on a command line

The words of a command line are options, arguments and the separator `--`, after which every word is
an argument. Long options may be shortened as long as only one option is meant, and may have their
value after an equals sign; short options may be written together after one dash.

`Grammar.events` tells what the words ask for, in order. It ends with `misuse` at the first word
that cannot be understood.
-/

namespace PfaScript

namespace Command

/-- The options of a command line: `κ` says what they mean. -/
structure Grammar (κ : Type) where
  /-- The options, each as it is written. -/
  options : List (String × κ)
  takesValue : κ → Bool

/-- What stands in a word after the option that it names. -/
inductive Tail where
  | nothing
  /-- The value of a long option, after an equals sign. -/
  | assigned (value : List Char)
  /-- The letters after a short option, or after its equals sign: a value, or further short options.
  -/
  | joined (letters : List Char)
deriving DecidableEq, Repr

/-- What stands after a long option: a value or nothing. -/
def Tail.ofValue : Option (List Char) → Tail
  | some value => .assigned value
  | none => .nothing

/-- An option that a word names, and the rest of the word. -/
structure Named (κ : Type) where
  key : κ
  tail : Tail
deriving Repr

/-- The options of one word. -/
structure Cluster (κ : Type) where
  /-- The options that take no value, in order. -/
  flags : List κ := []
  /-- The option that takes a value, which may be in the word or not. -/
  last : Option (κ × Option (List Char)) := none
deriving Repr

/-- What a word of a command line is. -/
inductive Role (κ : Type) where
  | argument
  | separator
  | option (named : Named κ)
  | unknown
deriving Repr

/-- A word of a command line. -/
structure Word (κ : Type) where
  text : String
  role : Role κ
deriving Repr

/-- What the words of a command line ask for. -/
inductive Event (κ : Type) where
  /-- An option, and its value if it has one. -/
  | given (key : κ) (value : Option String)
  /-- An argument and the words after it. -/
  | argument (text : String) (after : List String)
  | separator
  | unknown
  /-- Nothing that follows counts. -/
  | misuse
deriving Repr

/-- What the options of a word ask for that take no value. -/
def Cluster.events {κ : Type} (cluster : Cluster κ) : List (Event κ) :=
  cluster.flags.map fun flag => .given flag none

namespace Grammar

variable {κ : Type}

/-! ### Kinds of words -/

/-- Whether a word is a negative number: digits, or digits after a point. A line end may follow. -/
def isNegativeNumber : List Char → Bool
  | '-' :: rest =>
    let rest := if rest.getLast? = some '\n' then rest.dropLast else rest
    let isDigit (c : Char) : Bool := (Text.digitValue? c).isSome
    match rest.dropWhile isDigit with
    | [] => !rest.isEmpty
    | '.' :: fraction => !fraction.isEmpty && fraction.all isDigit
    | _ => false
  | _ => false

/-- The text before the first equals sign and the text after it. -/
def splitValue : List Char → List Char × Option (List Char)
  | [] => ([], none)
  | '=' :: rest => ([], some rest)
  | c :: rest =>
    let (name, value) := splitValue rest
    (c :: name, value)

/-- The options that a word can mean when no option is written exactly like it. -/
def candidates (grammar : Grammar κ) (cs : List Char) : List (Named κ) :=
  match cs with
  | '-' :: '-' :: _ =>
    let (name, value) := splitValue cs
    (grammar.options.filter fun option => name.isPrefixOf option.1.toList).map fun option =>
      ⟨option.2, Tail.ofValue value⟩
  | '-' :: c :: rest =>
    (grammar.options.filter fun option => option.1.toList = ['-', c]).map fun option =>
      ⟨option.2, .joined rest⟩
  | _ => []

/-- What a word is; `none` if it can mean several options. -/
def roleOf? (grammar : Grammar κ) (word : String) : Option (Role κ) :=
  match word.toList with
  | '-' :: rest =>
    if let some key := grammar.options.lookup word then some (.option ⟨key, .nothing⟩)
    else if rest.isEmpty then some .argument
    else
      let (name, value) := splitValue word.toList
      match value, grammar.options.lookup (String.ofList name) with
      | some value, some key =>
        some (.option ⟨key, if name.length = 2 then .joined value else .assigned value⟩)
      | _, _ =>
        match grammar.candidates word.toList with
        | [named] => some (.option named)
        | [] =>
          if isNegativeNumber word.toList || word.toList.contains ' ' then some .argument
          else some .unknown
        | _ => none
  | _ => some .argument

/-- The words of a command line with what they are; `none` if a word can mean several options. -/
def words? (grammar : Grammar κ) : List String → Option (List (Word κ))
  | [] => some []
  | text :: rest =>
    if text = "--" then some (⟨text, .separator⟩ :: rest.map fun text => ⟨text, .argument⟩) else do
    let role ← grammar.roleOf? text
    return ⟨text, role⟩ :: (← words? grammar rest)

/-! ### Events -/

/-- The options that letters name, one each. What follows an option that takes a value is its value.
-/
def letters? (grammar : Grammar κ) : List Char → Option (Cluster κ)
  | [] => some {}
  | c :: rest => do
    let key ← grammar.options.lookup (String.ofList ['-', c])
    if grammar.takesValue key then
      return { last := some (key, if rest.isEmpty then none else some rest) }
    else
      let cluster ← letters? grammar rest
      return { cluster with flags := key :: cluster.flags }

/-- The options of a word that names one; `none` if one without value has a value assigned, or if a
letter is no option. -/
def cluster? (grammar : Grammar κ) (named : Named κ) : Option (Cluster κ) :=
  if grammar.takesValue named.key then
    match named.tail with
    | .nothing => some { last := some (named.key, none) }
    | .assigned value => some { last := some (named.key, some value) }
    | .joined letters => some { last := some (named.key, some letters) }
  else
    match named.tail with
    | .nothing => some { flags := [named.key] }
    | .assigned _ => none
    | .joined [] => none
    | .joined letters => do
      let cluster ← letters? grammar letters
      return { cluster with flags := named.key :: cluster.flags }

/-- What words ask for, in order. An option that takes a value and does not have one in its own word
takes the next word, which must be an argument. -/
def events (grammar : Grammar κ) : List (Word κ) → List (Event κ)
  | [] => []
  | ⟨text, .argument⟩ :: rest => .argument text (rest.map Word.text) :: events grammar rest
  | ⟨_, .separator⟩ :: rest => .separator :: events grammar rest
  | ⟨_, .unknown⟩ :: rest => .unknown :: events grammar rest
  | ⟨_, .option named⟩ :: rest =>
    match grammar.cluster? named with
    | none => [.misuse]
    | some cluster =>
      match cluster.last, rest with
      | none, rest => cluster.events ++ events grammar rest
      | some (key, some value), rest =>
        cluster.events ++ .given key (some (String.ofList value)) :: events grammar rest
      | some (key, none), ⟨text, .argument⟩ :: rest =>
        cluster.events ++ .given key (some text) :: events grammar rest
      | some (_, none), _ => [.misuse]

end Grammar

end Command

end PfaScript
