import TerminalAgent.Toml.Value

/-!
# Documents

A document is lines: entries of the table whose header came last, headers, and comments. `read` gives
the tree of a text or its first fault.
-/

namespace TerminalAgent.Toml

/-- What a document has been so far. -/
structure Draft where
  root : Table
  /-- The table that entries go to. -/
  current : Table
  /-- The path in the header of the current table, which is empty for the whole document. -/
  path : List Key
  /-- Whether the current table is one of several under its header. -/
  isElement : Bool

namespace Draft

/-- The document before its first line. -/
def new : Draft where
  root := .new .headed none
  current := .new .headed none
  path := []
  isElement := false

/-- Puts the current table where its header says. -/
def close (draft : Draft) : Except Cause Table :=
  match draft.path.getLast? with
  | none => pure draft.current
  | some key => do
      let (_, root) ← draft.root.visitAt .header
        (fun parent =>
          if draft.isElement then
            match parent.find? key.name with
            | some (_, .tables elements) =>
                pure ((), parent.put key (.tables (elements ++ [draft.current.toItem])))
            | _ => throw (.taken draft.path)
          else pure ((), parent.put key draft.current.toItem))
        [] draft.path.dropLast
      pure root

/-- Begins the table of a header. A table that was only passed keeps what is in it. -/
def openTable (path : List Key) (key : Key) (span : Span) (draft : Draft) : Except Cause Draft := do
  let root ← draft.close
  let parts := path ++ [key]
  let (entries, root) ← root.visitAt .header
    (fun parent =>
      match parent.find? key.name with
      | none => pure ([], parent)
      | some (_, .table .passed _ entries) => pure (entries, parent.remove key.name)
      | some _ => throw (.taken parts))
    [] path
  pure ⟨root, ⟨.headed, some span, entries⟩, parts, false⟩

/-- Begins one more table of a header that several tables share. -/
def openElement (path : List Key) (key : Key) (span : Span) (draft : Draft) : Except Cause Draft := do
  let root ← draft.close
  let parts := path ++ [key]
  let (_, root) ← root.visitAt .header
    (fun parent =>
      match parent.find? key.name with
      | none => pure ((), parent.put key (.tables []))
      | some (_, .tables _) => pure ((), parent)
      | some _ => throw (.taken parts))
    [] path
  pure ⟨root, .new .headed (some span), parts, true⟩

/-- Adds an entry to the current table, which then reaches to the end of the entry. -/
def addEntry (path : List Key) (key : Key) (item : Item) (draft : Draft) : Except Cause Draft := do
  let span :=
    match draft.current.span, item.span? with
    | some span, some last => some ⟨span.start, last.stop⟩
    | span, _ => span
  let place := draft.path.map fun key => writeKey key.name
  let current ← { draft.current with span }.addEntry .dotted (some place) path key item
  pure { draft with current }

end Draft

/-! ## Lines -/

/-- What must follow an entry or a header. -/
def lineTailAfter : Reader Unit :=
  (lineTail.expecting "newline").expecting "`#`"

/-- A line with an entry. -/
def entryLine (draft : Draft) : Reader Draft :=
  let entry : Reader ((List Key × Key) × Item) := do
    let key ← keyPath
    Reader.final do
      let _ ← keyMark
      blanks
      let item ← value
      lineTailAfter
      pure (key, item)
  Reader.checked entry fun ((path, key), item) => draft.addEntry path key item

/-- A line with a header, which begins with `opening` and ends with `closing`. -/
def headerLine (opening closing what : String)
    (openIt : List Key → Key → Span → Except Cause Draft) : Reader Draft :=
  let header : Reader ((List Key × Key) × Span) := do
    let start ← Reader.place
    Reader.literal opening
    let key ← keyPath.final
    (((Reader.literal closing).final).expecting "`.`").expecting what
    let stop ← Reader.place
    lineTailAfter.final
    pure (key, ⟨start, stop⟩)
  (Reader.checked header fun ((path, key), span) => openIt path key span).labelled "table header"

/-- A line with a header of either form. -/
def tableLine (draft : Draft) : Reader Draft := fun text =>
  match text with
  | '[' :: '[' :: _ =>
      headerLine "[[" "]]" "`]]`" (fun path key span => draft.openElement path key span) text
  | '[' :: _ :: _ =>
      headerLine "[" "]" "`]`" (fun path key span => draft.openTable path key span) text
  | _ => (Reader.miss text).labelled "table header"

/-- The lines of a document, at most `fuel` of them. -/
def linesFrom : (fuel : Nat) → Draft → Reader Draft
  | 0, draft, text => .read draft text
  | fuel + 1, draft, text =>
      let line : Outcome Draft :=
        match text with
        | [] => .missed { place := [] }
        | '#' :: _ =>
            Reader.final (do comment; lineEnd; pure draft) text
        | '[' :: _ => (tableLine draft).final text
        | '\n' :: rest => .read draft rest
        | '\r' :: _ => (newline text).map fun _ => draft
        | _ => (entryLine draft).final text
      match line with
      | .read draft rest => linesFrom fuel draft (rest.dropWhile isBlank)
      | .missed _ => .read draft text
      | .refused fault => .refused fault

/-- A byte order mark, which may come first. -/
def byteOrderMark : Char := '\ufeff'

/-- The tree of a text, or its first fault. -/
def readDocument (text : List Char) : Except Fault Table :=
  let body := if text.head? = some byteOrderMark then text.drop 1 else text
  match linesFrom (body.length + 1) .new (body.dropWhile isBlank) with
  | .read draft [] =>
      match draft.close with
      | .ok root => .ok root
      | .error cause => .error { place := [], cause }
  | .read _ rest => .error { place := rest }
  | .missed fault => .error fault
  | .refused fault => .error fault

end TerminalAgent.Toml
