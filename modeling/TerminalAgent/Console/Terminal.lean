import TerminalAgent.Session.Output

/-!
# A terminal

What is typed is gathered in lines, shown if the terminal echoes, and kept until a program reads it.
Some keys edit the line that is being typed, and some send a signal to the programs in front.
-/

namespace TerminalAgent

/-- What a key asks of the programs in front. -/
inductive Signal where
  | interrupt
  | quit
  deriving Repr, DecidableEq

structure Terminal where
  cols : UInt16
  rows : UInt16
  echo : EchoMode
  /-- What was typed of the current line. -/
  line : Bytes
  /-- Lines that no program has read yet. An empty one is the end of the input. -/
  lines : List Bytes
  /-- Whether the next key is taken as it is. -/
  isLiteral : Bool
  deriving Repr, DecidableEq

namespace Terminal

def new (cols rows : UInt16) : Terminal where
  cols := cols
  rows := rows
  echo := .enabled
  line := []
  lines := []
  isLiteral := false

/-! ## Keys -/

namespace Keys

def endOfInput : UInt8 := 0x04

def interrupt : UInt8 := 0x03

def quit : UInt8 := 0x1C

def erase : UInt8 := 0x7F

def eraseLine : UInt8 := 0x15

def eraseWord : UInt8 := 0x17

def literal : UInt8 := 0x16

/-- Output goes on. -/
def start : UInt8 := 0x11

/-- Output is held. -/
def stop : UInt8 := 0x13

def carriageReturn : UInt8 := 0x0D

def newline : UInt8 := 0x0A

def tab : UInt8 := 0x09

end Keys

/-- How many bytes a line holds, with its end. -/
def lineLimit : Nat := 4095

/-- Output as the screen gets it: a newline also returns to the first column. -/
def onScreen (bytes : Bytes) : Bytes :=
  bytes.flatMap fun byte => if byte = Keys.newline then [Keys.carriageReturn, Keys.newline] else [byte]

/-- A control byte is shown by a caret and a letter. -/
def caret (byte : UInt8) : Bytes :=
  [0x5E, byte ^^^ 0x40]

def isControl (byte : UInt8) : Bool :=
  (byte < 0x20 && byte ≠ Keys.tab) || byte = 0x7F

/-- How a byte of a line is shown. -/
def shown (byte : UInt8) : Bytes :=
  if isControl byte then caret byte else [byte]

/-- What wipes so many columns. -/
def wipe (columns : Nat) : Bytes :=
  (List.replicate columns [0x08, 0x20, 0x08]).flatten

/-! ## Typing -/

/-- What typing leads to. -/
structure Typed where
  terminal : Terminal
  /-- What the screen shows of it. -/
  screen : Bytes
  signals : List Signal

/-- Shows something if the terminal echoes. -/
def echoing (terminal : Terminal) (bytes : Bytes) : Bytes :=
  match terminal.echo with
  | .enabled => bytes
  | .disabled => []

/-- The line with one more byte. In a full line, the last byte gives way. -/
def put (terminal : Terminal) (byte : UInt8) : Terminal :=
  let kept := if terminal.line.length < lineLimit then terminal.line else terminal.line.dropLast
  { terminal with line := kept ++ [byte] }

/-- Lets programs read what was typed so far. -/
def endLine (terminal : Terminal) : Terminal :=
  { terminal with line := [], lines := terminal.lines ++ [terminal.line] }

/-- Takes so many bytes back from the end of the line. -/
def takeBack (terminal : Terminal) (count : Nat) : Typed where
  terminal := { terminal with line := terminal.line.take (terminal.line.length - count) }
  screen :=
    let gone := terminal.line.drop (terminal.line.length - count)
    terminal.echoing (wipe (gone.flatMap shown).length)
  signals := []

/-- The length of the word at the end of a line, with the blanks after it. -/
def lastWordLength (line : Bytes) : Nat :=
  let isWord (byte : UInt8) : Bool :=
    (0x30 ≤ byte && byte ≤ 0x39) || (0x41 ≤ byte && byte ≤ 0x5A) || (0x61 ≤ byte && byte ≤ 0x7A)
      || byte = 0x5F || 0x80 ≤ byte
  let rest := line.reverse.dropWhile fun byte => !isWord byte
  line.length - (rest.dropWhile isWord).length

/-- A key that sends a signal. What was typed and not read is lost. -/
def raise (terminal : Terminal) (key : UInt8) (signal : Signal) : Typed where
  terminal := { terminal with line := [], lines := [] }
  screen := terminal.echoing (caret key)
  signals := [signal]

/-- A byte that belongs to the line. -/
def plain (terminal : Terminal) (byte : UInt8) : Typed :=
  ⟨terminal.put byte, terminal.echoing (shown byte), []⟩

def typeKey (terminal : Terminal) (key : UInt8) : Typed :=
  let nothing : Typed := ⟨terminal, [], []⟩
  if terminal.isLiteral then { terminal with isLiteral := false }.plain key
  else if key = Keys.newline || key = Keys.carriageReturn then
    ⟨(terminal.put Keys.newline).endLine, terminal.echoing (onScreen [Keys.newline]), []⟩
  else if key = Keys.endOfInput then ⟨terminal.endLine, [], []⟩
  else if key = Keys.interrupt then terminal.raise key .interrupt
  else if key = Keys.quit then terminal.raise key .quit
  else if key = Keys.erase then terminal.takeBack 1
  else if key = Keys.eraseLine then terminal.takeBack terminal.line.length
  else if key = Keys.eraseWord then terminal.takeBack (lastWordLength terminal.line)
  else if key = Keys.literal then { nothing with terminal := { terminal with isLiteral := true } }
  else if key = Keys.start || key = Keys.stop then nothing
  else terminal.plain key

/-- Types bytes one after the other. -/
def type (terminal : Terminal) (bytes : Bytes) : Typed :=
  let (terminal, screens, signals) := bytes.foldl
    (fun (state : Terminal × List Bytes × List Signal) key =>
      let (terminal, screens, signals) := state
      let typed := terminal.typeKey key
      (typed.terminal, typed.screen :: screens, signals ++ typed.signals))
    (terminal, [], [])
  ⟨terminal, screens.reverse.flatten, signals⟩

end Terminal

end TerminalAgent
