import AqlGateway.Settings.Toml.Scalar
import AqlGateway.Settings.Toml.Table

/-!
# TOML documents

* `value?` — a value: a scalar, a list, or a table between braces;
* `Document` — the tables so far, and the one that keys are put in;
* `read?` — the table of a text, none when the text is no document.
-/

namespace AqlGateway.Settings.Toml

/-! ### Values -/

/-- At most `most` items of a list with commas between them, behind the opening bracket. -/
def items? (item : Scan Entry) : (most : Nat) → Scan (List Entry)
  | 0, _ => none
  | most + 1, s =>
    match skipGap false s with
    | ']' :: rest => some ([], rest)
    | s => do
      let (first, rest) ← item s
      match skipGap false rest with
      | ',' :: rest =>
        let (more, rest) ← items? item most rest
        pure (first :: more, rest)
      | ']' :: rest => pure ([first], rest)
      | _ => none

/-- A key, an equals sign and a value. -/
def pair? (item : Scan Entry) (s : List Char) : Option ((List String × Entry) × List Char) := do
  let (key, s) ← dottedKey? s
  let s ← Text.expect? ['='] s
  let (entry, rest) ← item (skipSpace s)
  pure ((key, entry), rest)

/-- Puts an entry under a key of one or more parts. -/
def assignValue? (key : List String) (entry : Entry) (members : Members) : Option Members :=
  match key.getLast? with
  | none => none
  | some last => assign? last (.value entry) key.dropLast true members

/-- At most `most` pairs with commas between them, put into a table, up to the closing brace. -/
def pairs? (item : Scan Entry) : (most : Nat) → Members → Scan Members
  | 0, _, _ => none
  | most + 1, members, s => do
    let ((key, entry), rest) ← pair? item s
    let members ← assignValue? key entry members
    match skipSpace rest with
    | ',' :: rest => pairs? item most members rest
    | '\x7d' :: rest => pure (members, rest)
    | _ => none

/-- A table behind its opening brace. -/
def inlineTable? (item : Scan Entry) (s : List Char) : Option (Entry × List Char) :=
  match skipSpace s with
  | '\x7d' :: rest => some (.table [], rest)
  | s => (pairs? item s.length [] s).map fun (members, rest) => (.table (entries members), rest)

/-- A value with lists and tables nested at most `depth` deep. -/
def value? : (depth : Nat) → Scan Entry
  | depth + 1, '[' :: s =>
    (items? (value? depth) (s.length + 1) s).map fun (items, rest) => (.list items, rest)
  | depth + 1, '\x7b' :: s => inlineTable? (value? depth) s
  | _, s => scalar? s

/-! ### Documents -/

/-- A document so far: its tables, and the path of the one that keys are put in. -/
structure Document where
  root : Members := []
  current : List String := []

namespace Document

/-- Opens the table of a header. -/
def openPath? (change : String → Members → Option Members) (path : List String)
    (document : Document) : Option Document := do
  let key ← path.getLast?
  let root ← within? (change key) path.dropLast document.root
  pure ⟨root, path⟩

def set? (key : List String) (entry : Entry) (document : Document) : Option Document := do
  let root ← within? (assignValue? key entry) document.current document.root
  pure { document with root := root }

/-- What a line does that is neither empty nor a comment, and the text behind it. -/
def line? (document : Document) : List Char → Option (Document × List Char)
  | '[' :: '[' :: s => do
    let (path, s) ← dottedKey? s
    let s ← Text.expect? [']', ']'] s
    let document ← document.openPath? openElement? path
    pure (document, s)
  | '[' :: s => do
    let (path, s) ← dottedKey? s
    let s ← Text.expect? [']'] s
    let document ← document.openPath? openTable? path
    pure (document, s)
  | s => do
    let ((key, entry), s) ← pair? (value? depthLimit) s
    let document ← document.set? key entry
    pure (document, s)

/-- The document behind at most `most` lines. -/
def lines? : (most : Nat) → Document → List Char → Option Document
  | 0, _, _ => none
  | most + 1, document, s =>
    match skipGap false s with
    | [] => some document
    | s => do
      let (document, rest) ← document.line? s
      let rest ← lineEnd? rest
      lines? most document rest

end Document

/-- The text without a byte order mark in front. -/
def withoutMark : List Char → List Char
  | '\ufeff' :: s => s
  | s => s

def read? (s : String) : Option Entry :=
  let text := withoutMark s.toList
  (Document.lines? (text.length + 1) {} text).map fun document => .table (entries document.root)

end AqlGateway.Settings.Toml
