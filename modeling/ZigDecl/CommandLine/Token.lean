import ZigDecl.CommandLine.Option
import ZigDecl.Text.Digit

/-! # Words of the command line

Each word is an option, a plain argument or the separator `--`, behind which all words are plain. A
long option may be shortened as long as only one option starts that way, a value may stand behind
an equals sign, and a short option may be joined to its value or to other short ones. -/

namespace ZigDecl.CommandLine

/-- A word of the command line. -/
inductive Token where
  | separator
  | plain (text : String)
  /-- An option with what stands in one word with it: behind an equals sign, or right behind a short
  option. -/
  | option (flag : Flag) (isShort : Bool) (value : Option String)
  | unknownOption (text : String)
  deriving DecidableEq, Repr

namespace Token

/-- A word cut at its first equals sign. -/
def cut (word : List Char) : List Char × Option String :=
  match word.dropWhile (· != '=') with
  | _ :: value => (word.takeWhile (· != '='), some (String.ofList value))
  | [] => (word, none)

/-- Whether a spelling is that of a short option. -/
def isShort (spelling : String) : Bool := spelling.toList.length == 2

/-- A text without the line feed at its end. -/
def withoutLineFeed (cs : List Char) : List Char :=
  if cs.getLast? == some '\n' then cs.dropLast else cs

/-- Whether a word looks like a negative number, in the digits of any script. A line feed may end
it. -/
def looksNegative (word : List Char) : Bool :=
  match withoutLineFeed word with
  | '-' :: rest =>
    let whole := rest.takeWhile Text.isDecimal
    match rest.dropWhile Text.isDecimal with
    | [] => !whole.isEmpty
    | '.' :: digits => !digits.isEmpty && digits.all Text.isDecimal
    | _ => false
  | _ => false

/-- The options that a word may stand for, with the spellings that they would have. -/
def candidates (word : List Char) : List (String × Token) :=
  match word with
  | '-' :: '-' :: _ =>
    let (start, value) := cut word
    Flag.table.filterMap fun (spelling, flag) =>
      if start.isPrefixOf spelling.toList then
        some (spelling, .option flag (isShort spelling) value)
      else none
  | _ =>
    Flag.table.filterMap fun (spelling, flag) =>
      if spelling.toList == word.take 2 then
        some (spelling, .option flag true (some (String.ofList (word.drop 2))))
      else if word.isPrefixOf spelling.toList then
        some (spelling, .option flag (isShort spelling) none)
      else none

/-- What a word in front of the separator is. -/
def ofWord (word : String) : Except UsageError Token :=
  let cs := word.toList
  if cs.head? != some '-' || cs.length == 1 then .ok (.plain word)
  else
    match Flag.ofSpelling? word, cut cs with
    | some flag, _ => .ok (.option flag (isShort word) none)
    | none, (start, value) =>
      let start := String.ofList start
      match value, Flag.ofSpelling? start with
      | some value, some flag => .ok (.option flag (isShort start) (some value))
      | _, _ =>
        match candidates cs with
        | [(_, token)] => .ok token
        | [] =>
          if looksNegative cs || cs.contains ' ' then .ok (.plain word)
          else .ok (.unknownOption word)
        | several => .error (.ambiguous word (several.map (·.1)))

/-- What the words of a command line are. -/
def ofWords : List String → Except UsageError (List Token)
  | [] => .ok []
  | word :: rest =>
    if word == "--" then .ok (.separator :: rest.map .plain)
    else do
      let token ← ofWord word
      return token :: (← ofWords rest)

end Token

end ZigDecl.CommandLine
