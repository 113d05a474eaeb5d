/-!
# Commands as they are typed

A line is cut into words and operators, and these are read as a command. Text whose quotes or
brackets are still open is not finished: more lines belong to it.
-/

namespace TerminalAgent.Script

/-- A piece of a word. -/
inductive Part where
  | text (text : String)
  /-- The value of a variable, cut at blanks unless it stands in quotes. -/
  | variable (name : String) (isQuoted : Bool)
  deriving Repr, DecidableEq

abbrev Word := List Part

/-- What a line consists of. -/
inductive Token where
  | word (word : Word)
  | semicolon
  | ampersand
  | bothAnds
  | bothBars
  | bar
  | opening
  | closing
  deriving Repr, DecidableEq

/-- What is run. -/
inductive Command where
  | nothing
  | simple (words : List Word)
  /-- In a shell of its own. -/
  | subshell (body : Command)
  | sequence (first second : Command)
  /-- The second one only after success of the first one. -/
  | ifSucceeded (first second : Command)
  /-- The second one only after failure of the first one. -/
  | ifFailed (first second : Command)
  /-- Without waiting for its end. -/
  | background (body : Command)
  /-- Once for each argument that the words stand for, which the variable then has. -/
  | forEach (name : String) (words : List Word) (body : Command)
  /-- As long as the condition succeeds, or until it does. -/
  | loop (isUntil : Bool) (condition body : Command)
  | ifThen (condition yes no : Command)
  deriving Repr, DecidableEq

/-- Why text is no command. -/
inductive Fault where
  /-- More lines are needed. -/
  | unfinished
  /-- This token cannot stand where it does. -/
  | unexpected (token : String)
  deriving Repr, DecidableEq

/-! ## Cutting -/

/-- Where in a word the reader is. -/
inductive Place where
  | plain
  /-- After a backslash. -/
  | escaped
  | inSingle
  | inDouble
  /-- After a backslash in double quotes. -/
  | escapedInDouble
  | comment
  /-- After a dollar sign. -/
  | dollar (isQuoted : Bool)
  /-- In the name of a variable, which is given backwards. -/
  | name (isQuoted : Bool) (chars : List Char)
  /-- The same between braces. -/
  | braced (isQuoted : Bool) (chars : List Char)
  deriving Repr, DecidableEq

/-- What has been cut so far, latest first. -/
structure Cut where
  tokens : List Token
  /-- The word that is being read, if there is one. -/
  word : Option (List Part)
  place : Place
  deriving Repr, DecidableEq

namespace Cut

def start : Cut := ⟨[], none, .plain⟩

/-- Adds a piece to the word. -/
def addPart (cut : Cut) (part : Part) : Cut :=
  match cut.word, part with
  | some (.text before :: parts), .text after =>
      { cut with word := some (.text (before ++ after) :: parts) }
  | word, part => { cut with word := some (part :: word.getD []) }

def addChar (cut : Cut) (c : Char) : Cut :=
  cut.addPart (.text (String.singleton c))

def endWord (cut : Cut) : Cut :=
  match cut.word with
  | none => cut
  | some parts => { cut with tokens := .word parts.reverse :: cut.tokens, word := none }

/-- Adds an operator; a doubled one is another one. -/
def addOperator (cut : Cut) (token : Token) : Cut :=
  let cut' := cut.endWord
  { cut' with tokens := token :: cut'.tokens }

def isNameChar (c : Char) : Bool := c.isAlphanum || c = '_'

/-- A character outside quotes. -/
def plainChar (cut : Cut) (isDoubled : Bool) (c : Char) : Cut :=
  let cut := { cut with place := .plain }
  match c with
  | ' ' | '\t' | '\r' => cut.endWord
  | '\\' => { cut with place := .escaped }
  | '\'' => { cut.addPart (.text "") with place := .inSingle }
  | '"' => { cut.addPart (.text "") with place := .inDouble }
  | '$' => { cut with place := .dollar false }
  | '\n' | ';' => cut.addOperator .semicolon
  | '(' => cut.addOperator .opening
  | ')' => cut.addOperator .closing
  | '&' =>
      match isDoubled, cut.tokens with
      | true, .ampersand :: tokens => { cut with tokens := .bothAnds :: tokens }
      | _, _ => cut.addOperator .ampersand
  | '|' =>
      match isDoubled, cut.tokens with
      | true, .bar :: tokens => { cut with tokens := .bothBars :: tokens }
      | _, _ => cut.addOperator .bar
  | '#' => if cut.word.isNone then { cut with place := .comment } else cut.addChar c
  | _ => cut.addChar c

/-- A character between double quotes. -/
def doubleChar (cut : Cut) (c : Char) : Cut :=
  let cut := { cut with place := .inDouble }
  match c with
  | '"' => { cut with place := .plain }
  | '\\' => { cut with place := .escapedInDouble }
  | '$' => { cut with place := .dollar true }
  | _ => cut.addChar c

/-- A character in or out of double quotes. -/
def char (cut : Cut) (isQuoted isDoubled : Bool) (c : Char) : Cut :=
  if isQuoted then cut.doubleChar c else cut.plainChar isDoubled c

/-- The place after a variable. -/
def after (isQuoted : Bool) : Place :=
  if isQuoted then .inDouble else .plain

/-- One more character, of which `isDoubled` says whether it is the same as the one before. -/
def step (cut : Cut) (isDoubled : Bool) (c : Char) : Cut :=
  match cut.place with
  | .plain => cut.plainChar isDoubled c
  | .escaped => if c = '\n' then { cut with place := .plain } else { cut.addChar c with place := .plain }
  | .inSingle => if c = '\'' then { cut with place := .plain } else cut.addChar c
  | .inDouble => cut.doubleChar c
  | .escapedInDouble =>
      let cut := { cut with place := .inDouble }
      if c = '\n' then cut
      else if "$`\"\\".contains c then cut.addChar c
      else (cut.addChar '\\').addChar c
  | .comment => if c = '\n' then cut.plainChar false c else cut
  | .dollar isQuoted =>
      if c = '\x7b' then { cut with place := .braced isQuoted [] }
      else if c.isAlpha || c = '_' then { cut with place := .name isQuoted [c] }
      else if c.isDigit || "?$#!@*-".contains c then
        { cut.addPart (.variable (String.singleton c) isQuoted) with place := after isQuoted }
      else (cut.addChar '$').char isQuoted false c
  | .name isQuoted chars =>
      if isNameChar c then { cut with place := .name isQuoted (c :: chars) }
      else (cut.addPart (.variable (String.ofList chars.reverse) isQuoted)).char isQuoted false c
  | .braced isQuoted chars =>
      if c = '\x7d' then
        { cut.addPart (.variable (String.ofList chars.reverse) isQuoted) with place := after isQuoted }
      else { cut with place := .braced isQuoted (c :: chars) }

def steps (cut : Cut) : (before : Option Char) → List Char → Cut
  | _, [] => cut
  | before, c :: rest => steps (cut.step (before = some c) c) (some c) rest

/-- The tokens, in order, unless a quote is open. -/
def finish (cut : Cut) : Except Fault (List Token) :=
  match cut.place with
  | .plain | .comment => pure cut.endWord.tokens.reverse
  | .dollar false => pure (cut.addChar '$').endWord.tokens.reverse
  | .name false chars =>
      pure (cut.addPart (.variable (String.ofList chars.reverse) false)).endWord.tokens.reverse
  | _ => throw .unfinished

end Cut

def tokens (text : String) : Except Fault (List Token) :=
  (Cut.start.steps none text.toList).finish

/-! ## Reading -/

/-- How a token is shown when it cannot stand where it does. -/
def Token.name : Token → String
  | word _ => "word"
  | semicolon => ";"
  | ampersand => "&"
  | bothAnds => "&&"
  | bothBars => "||"
  | bar => "|"
  | opening => "("
  | closing => ")"

/-- A word that begins or divides a command, where a command may begin. -/
def Token.keyword? : Token → Option String
  | word [.text text] =>
      if ["for", "while", "until", "do", "done", "if", "then", "elif", "else", "fi", "\x7b", "\x7d"].contains
        text then some text
      else none
  | _ => none

/-- Whether a token ends the commands before it. -/
def Token.isEnd (token : Token) : Bool :=
  match token with
  | closing => true
  | token => token.keyword?.any ["do", "done", "then", "elif", "else", "fi", "\x7d"].contains

/-- What follows a keyword that has to stand here. -/
def expect (keyword : String) : List Token → Except Fault (List Token)
  | [] => throw .unfinished
  | token :: rest =>
      if token.keyword? = some keyword then pure rest
      else throw (.unexpected (token.keyword?.getD token.name))

/-- The words at the front. -/
def wordsOf : List Token → List Word × List Token
  | .word word :: rest => let (words, rest) := wordsOf rest; (word :: words, rest)
  | rest => ([], rest)

/-- Operators that end a command without a word on the next. -/
def skipSemicolons : List Token → List Token
  | .semicolon :: rest => skipSemicolons rest
  | rest => rest

mutual

/-- Commands up to a closing bracket or the end. -/
def list : (fuel : Nat) → List Token → Except Fault (Command × List Token)
  | 0, _ => throw .unfinished
  | fuel + 1, tokens => do
      match skipSemicolons tokens with
      | [] => pure (.nothing, [])
      | token :: tokens =>
        if token.isEnd then pure (.nothing, token :: tokens)
        else
          let (first, rest) ← chain fuel (token :: tokens)
          match rest with
          | .semicolon :: rest => do
              let (second, rest) ← list fuel rest
              pure (.sequence first second, rest)
          | .ampersand :: rest => do
              let (second, rest) ← list fuel rest
              pure (.sequence (.background first) second, rest)
          | [] => pure (first, [])
          | token :: rest =>
              if token.isEnd then pure (first, token :: rest) else throw (.unexpected token.name)

/-- A command and what depends on its success. -/
def chain : (fuel : Nat) → List Token → Except Fault (Command × List Token)
  | 0, _ => throw .unfinished
  | fuel + 1, tokens => do
      let (first, rest) ← single fuel tokens
      chainFrom fuel first rest

def chainFrom : (fuel : Nat) → Command → List Token → Except Fault (Command × List Token)
  | 0, _, _ => throw .unfinished
  | fuel + 1, first, rest => do
      match rest with
      | .bothAnds :: rest => do
          let (second, rest) ← single fuel (skipSemicolons rest)
          chainFrom fuel (.ifSucceeded first second) rest
      | .bothBars :: rest => do
          let (second, rest) ← single fuel (skipSemicolons rest)
          chainFrom fuel (.ifFailed first second) rest
      | rest => pure (first, rest)

def single : (fuel : Nat) → List Token → Except Fault (Command × List Token)
  | 0, _ => throw .unfinished
  | fuel + 1, tokens => do
      match tokens with
      | [] => throw .unfinished
      | .word word :: rest =>
          match (Token.word word).keyword? with
          | none =>
              let (words, rest) := wordsOf rest
              pure (.simple (word :: words), rest)
          | some "for" => forLoop fuel rest
          | some "while" => conditional fuel false rest
          | some "until" => conditional fuel true rest
          | some "if" => choice fuel rest
          | some "\x7b" => do
              let (body, rest) ← list fuel rest
              pure (body, ← expect "\x7d" rest)
          | some keyword => throw (.unexpected keyword)
      | .opening :: rest => do
          let (body, rest) ← list fuel rest
          match rest with
          | .closing :: rest => pure (.subshell body, rest)
          | [] => throw .unfinished
          | token :: _ => throw (.unexpected token.name)
      | token :: _ => throw (.unexpected token.name)

/-- What follows "for". -/
def forLoop : (fuel : Nat) → List Token → Except Fault (Command × List Token)
  | 0, _ => throw .unfinished
  | fuel + 1, tokens => do
      match tokens with
      | .word [.text name] :: rest => do
          let (words, rest) :=
            match rest with
            | .word [.text "in"] :: rest => wordsOf rest
            | rest => ([], rest)
          let (body, rest) ← list fuel (← expect "do" (skipSemicolons rest))
          pure (.forEach name words body, ← expect "done" rest)
      | [] => throw .unfinished
      | token :: _ => throw (.unexpected token.name)

/-- What follows "while" or "until". -/
def conditional : (fuel : Nat) → (isUntil : Bool) → List Token → Except Fault (Command × List Token)
  | 0, _, _ => throw .unfinished
  | fuel + 1, isUntil, tokens => do
      let (condition, rest) ← list fuel tokens
      let (body, rest) ← list fuel (← expect "do" rest)
      pure (.loop isUntil condition body, ← expect "done" rest)

/-- What follows "if" or "elif". -/
def choice : (fuel : Nat) → List Token → Except Fault (Command × List Token)
  | 0, _ => throw .unfinished
  | fuel + 1, tokens => do
      let (condition, rest) ← list fuel tokens
      let (yes, rest) ← list fuel (← expect "then" rest)
      match rest.head?.bind Token.keyword? with
      | some "elif" => do
          let (no, rest) ← choice fuel rest.tail
          pure (.ifThen condition yes no, rest)
      | some "else" => do
          let (no, rest) ← list fuel rest.tail
          pure (.ifThen condition yes no, ← expect "fi" rest)
      | _ => pure (.ifThen condition yes .nothing, ← expect "fi" rest)

end

/-- Reads text as a command. -/
def parse (text : String) : Except Fault Command := do
  let tokens ← tokens text
  let (command, rest) ← list (4 * tokens.length + 4) tokens
  match rest with
  | [] => pure command
  | token :: _ => throw (.unexpected (token.keyword?.getD token.name))

end TerminalAgent.Script
