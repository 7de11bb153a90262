/-!
Command lines: options with a short and a long name, which take a fixed number of values, and one
argument without a name. Short options may be grouped and long ones cut short, values may be
attached to an option, and a double dash ends the options.
-/
namespace LuaBytecode.Command

structure Flag where
  short : Option Char
  long : String
  valueCount : Nat := 0
deriving DecidableEq, Repr

structure Grammar where
  flags : List Flag
  isOptional : Bool
deriving DecidableEq, Repr

inductive Misuse where
  | ambiguous (spelled : String)
  | ignoredValue (spelled value : String)
  | missingValues (spelled : String) (count : Nat)
  | missingArgument
  | unrecognized (texts : List String)
deriving DecidableEq, Repr

def Misuse.message : Misuse → String
  | ambiguous spelled => "ambiguous option: " ++ spelled
  | ignoredValue spelled value => "argument " ++ spelled ++ ": ignored explicit argument '" ++ value ++ "'"
  | missingValues spelled 1 => "argument " ++ spelled ++ ": expected one argument"
  | missingValues spelled count => "argument " ++ spelled ++ s!": expected {count} arguments"
  | missingArgument => "the following arguments are required: input"
  | unrecognized texts => "unrecognized arguments: " ++ String.intercalate " " texts

structure Attachment where
  text : List Char
  byEquals : Bool
deriving DecidableEq, Repr

inductive Token where
  | plain (text : String)
  | separator
  | flag (flag : Flag) (isShort : Bool) (attached : Option Attachment)
  | unknown (text : String)
deriving DecidableEq, Repr

namespace Flag

def spelled (flag : Flag) : String :=
  match flag.short with
  | some letter => String.ofList ['-', letter]
  | none => "--" ++ flag.long

def hasShort (flag : Flag) (letter : Char) : Bool := flag.short = some letter

def help : Flag where
  short := some 'h'
  long := "help"

end Flag

namespace Grammar

def all (grammar : Grammar) : List Flag := Flag.help :: grammar.flags

def short? (grammar : Grammar) (letter : Char) : Option Flag :=
  grammar.all.find? (·.hasShort letter)

def long? (grammar : Grammar) (name : String) : Option Flag := grammar.all.find? (·.long = name)

def inFull? (grammar : Grammar) (word : List Char) : Option (Flag × Bool) :=
  match word with
  | ['-', letter] => (grammar.short? letter).map (·, true)
  | '-' :: '-' :: name => (grammar.long? (String.ofList name)).map (·, false)
  | _ => none

end Grammar

def splitValue : List Char → List Char × Option (List Char)
  | [] => ([], none)
  | c :: rest =>
    if c = '=' then ([], some rest)
    else
      let (before, value) := splitValue rest
      (c :: before, value)

def isNumeral (digits : List Char) : Bool :=
  let whole := digits.takeWhile Char.isDigit
  match digits.dropWhile Char.isDigit with
  | [] => !whole.isEmpty
  | '.' :: decimals => !decimals.isEmpty && decimals.all Char.isDigit
  | _ => false

-- A word that spells no option in full, with or without a value, may be a long option cut short
-- or a short one with more behind it.
def Grammar.similar (grammar : Grammar) (word : List Char) : Except Misuse (Option Token) :=
  match word with
  | '-' :: '-' :: _ =>
    let (name, value) := splitValue word
    match grammar.all.filter fun flag => name.isPrefixOf ("--" ++ flag.long).toList with
    | [] => .ok none
    | [flag] => .ok (some (.flag flag false (value.map ({ text := ·, byEquals := true }))))
    | _ => .error (.ambiguous (String.ofList word))
  | '-' :: letter :: more =>
    .ok ((grammar.short? letter).map fun flag =>
      .flag flag true (some { text := more, byEquals := false }))
  | _ => .ok none

def Grammar.token (grammar : Grammar) (text : String) : Except Misuse Token :=
  let word := text.toList
  match word with
  | '-' :: _ :: _ =>
    match grammar.inFull? word with
    | some (flag, isShort) => .ok (.flag flag isShort none)
    | none =>
      let (before, value) := splitValue word
      match value, grammar.inFull? before with
      | some text, some (flag, isShort) =>
        .ok (.flag flag isShort (some { text, byEquals := true }))
      | _, _ =>
        match grammar.similar word with
        | .error misuse => .error misuse
        | .ok (some token) => .ok token
        | .ok none =>
          if isNumeral (word.drop 1) || word.contains ' ' then .ok (.plain text)
          else .ok (.unknown text)
  | _ => .ok (.plain text)

def Grammar.tokens (grammar : Grammar) : List String → Except Misuse (List Token)
  | [] => .ok []
  | text :: texts =>
    if text = "--" then .ok (.separator :: texts.map .plain)
    else
      match grammar.token text, grammar.tokens texts with
      | .error misuse, _ => .error misuse
      | _, .error misuse => .error misuse
      | .ok token, .ok tokens => .ok (token :: tokens)

def takePlain : Nat → List Token → Option (List String)
  | 0, _ => some []
  | count + 1, .plain text :: tokens => (takePlain count tokens).map (text :: ·)
  | _ + 1, _ => none

structure Group where
  found : List (Flag × List String)
  taken : Nat := 0
  extras : List String := []
deriving DecidableEq, Repr

def Flag.takeValues (flag : Flag) (tokens : List Token) : Except Misuse Group :=
  match takePlain flag.valueCount tokens with
  | some values => .ok { found := [(flag, values)], taken := flag.valueCount }
  | none => .error (.missingValues flag.spelled flag.valueCount)

def Group.behind (flag : Flag) (group : Group) : Group :=
  { group with found := (flag, []) :: group.found }

-- An option that takes a value takes all the text behind it; others cannot use it.
def Flag.takeAttached (flag : Flag) (text : List Char) : Except Misuse Group :=
  if flag.valueCount = 1 then .ok { found := [(flag, [String.ofList text])] }
  else .error (.ignoredValue flag.spelled (String.ofList text))

def Grammar.group (grammar : Grammar) (tokens : List Token) (flag : Flag) :
    List Char → Except Misuse Group
  | [] => flag.takeAttached []
  | letter :: more =>
    if flag.valueCount ≠ 0 || letter = '-' then flag.takeAttached (letter :: more)
    else
      match grammar.short? letter with
      | none =>
        .ok { found := [(flag, [])], extras := [String.ofList ('-' :: letter :: more)] }
      | some next =>
        let rest :=
          match more with
          | [] => next.takeValues tokens
          | '=' :: text => next.takeAttached text
          | more => grammar.group tokens next more
        rest.map (Group.behind flag)

def Grammar.groupOf (grammar : Grammar) (flag : Flag) (isShort : Bool)
    (attached : Option Attachment) (tokens : List Token) : Except Misuse Group :=
  match attached with
  | none => flag.takeValues tokens
  | some { text, byEquals } =>
    if isShort && !byEquals then grammar.group tokens flag text else flag.takeAttached text

structure Arguments where
  found : List (Flag × List String) := []
  argument : Option String := none
deriving DecidableEq, Repr

namespace Arguments

def has (arguments : Arguments) (name : String) : Bool :=
  arguments.found.any fun (flag, _) => flag.long = name

def values? (arguments : Arguments) (name : String) : Option (List String) :=
  (arguments.found.reverse.find? fun (flag, _) => flag.long = name).map Prod.snd

def value? (arguments : Arguments) (name : String) : Option String :=
  match arguments.values? name with
  | some [value] => if value = "" then none else some value
  | _ => none

end Arguments

inductive Request where
  | help
  | misuse (misuse : Misuse)
  | run (arguments : Arguments)
deriving DecidableEq, Repr

structure Progress where
  arguments : Arguments := {}
  isFilled : Bool := false
  extras : List String := []
deriving DecidableEq, Repr

def Grammar.finish (grammar : Grammar) (progress : Progress) : Request :=
  if !progress.isFilled && !grammar.isOptional then .misuse .missingArgument
  else if !progress.extras.isEmpty then .misuse (.unrecognized progress.extras)
  else .run progress.arguments

def Progress.fill (progress : Progress) (text : String) : Progress :=
  { progress with isFilled := true
                  arguments := { progress.arguments with argument := some text } }

def Grammar.afterSeparator (grammar : Grammar) (progress : Progress) (texts : List String) :
    Request :=
  if progress.isFilled then
    grammar.finish { progress with extras := progress.extras ++ "--" :: texts }
  else
    match texts with
    | text :: more =>
      let filled := progress.fill text
      grammar.finish { filled with extras := filled.extras ++ more }
    | [] =>
      if grammar.isOptional then grammar.finish { progress with isFilled := true }
      else .misuse .missingArgument

def Token.text : Token → String
  | .plain text => text
  | _ => ""

-- Goes through the words; `skip` of them belong to the option before. A double dash right behind
-- the argument goes with it.
def Grammar.collect (grammar : Grammar) : (skip : Nat) → Progress → List Token → Request
  | _, progress, [] => grammar.finish progress
  | skip + 1, progress, _ :: tokens => grammar.collect skip progress tokens
  | 0, progress, token :: tokens =>
    match token with
    | .unknown text =>
      grammar.collect 0 { progress with extras := progress.extras ++ [text] } tokens
    | .separator => grammar.afterSeparator progress (tokens.map Token.text)
    | .plain text =>
      if progress.isFilled then
        grammar.collect 0 { progress with extras := progress.extras ++ [text] } tokens
      else
        match tokens with
        | .separator :: rest =>
          let filled := progress.fill text
          grammar.finish { filled with extras := filled.extras ++ rest.map Token.text }
        | _ => grammar.collect 0 (progress.fill text) tokens
    | .flag flag isShort attached =>
      match grammar.groupOf flag isShort attached tokens with
      | .error misuse => .misuse misuse
      | .ok group =>
        if group.found.any fun (each, _) => each = Flag.help then .help
        else
          let found := progress.arguments.found ++ group.found
          grammar.collect group.taken
            { progress with arguments := { progress.arguments with found }
                            extras := progress.extras ++ group.extras } tokens

def Grammar.request (grammar : Grammar) (words : List String) : Request :=
  match grammar.tokens words with
  | .error misuse => .misuse misuse
  | .ok tokens => grammar.collect 0 {} tokens

end LuaBytecode.Command
