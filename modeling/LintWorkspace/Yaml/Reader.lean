/-
# Reading YAML documents

`Node.ofText?` reads the one document of a text.  Block collections are told
apart by the columns at which their entries start: an entry belongs to the
collection that starts at its column.  A key that is not marked by `?` stands on
one line with its colon.

An alias stands for the node of its anchor.  Of a tag only a scalar without quotes
keeps a trace.
-/

import LintWorkspace.Yaml.Scalar

namespace LintWorkspace
namespace Yaml

/-- How a scalar is written. -/
inductive Style where
  | quoted
  | plain
  /-- plain, with a tag -/
  | tagged
  /-- plain, with the tag of nothing -/
  | nothing
deriving DecidableEq, Repr

/-- A node of a document. -/
inductive Node where
  | scalar (text : String) (style : Style)
  | sequence (items : List Node)
  | mapping (entries : List (Node × Node))
deriving Inhabited

/-- What stands where nothing is written. -/
def Node.absent : Node := .scalar "" .plain

/-- A place in a text: the rest, the column, whether only blanks stand before it on its
line, and the anchored nodes so far. -/
structure Scan where
  rest : List Char
  column : Nat
  isFresh : Bool
  anchors : List (String × Node)

/-- The rest of a text from its next token on, the token's column, and whether the token is
the first one of its line.  The flags say whether the text starts in a comment and whether
tabs may stand before the token. -/
def nextToken (flow : Bool) : Bool → Bool → Nat → Bool → List Char → List Char × Nat × Bool
  | _, _, column, fresh, [] => ([], column, fresh)
  | comment, tabs, column, fresh, c :: cs =>
    if c = '\n' then nextToken flow false flow 0 true cs
    else if comment then nextToken flow true tabs column fresh cs
    else if c = ' ' || (c = '\t' && tabs) then nextToken flow false tabs (column + 1) fresh cs
    else if c = '#' then nextToken flow true tabs column fresh cs
    else (c :: cs, column, fresh)

namespace Scan

/-- The place of the next token. -/
def skip (flow tabs : Bool) (s : Scan) : Scan :=
  let (rest, column, fresh) := nextToken flow false (flow || tabs) s.column s.isFresh s.rest
  { s with rest, column, isFresh := fresh }

/-- The place behind so many characters of a line. -/
def ahead (s : Scan) (count : Nat) (rest : List Char) : Scan :=
  { s with rest, column := s.column + count, isFresh := false }

/-- Whether the next token marks an entry: the character, then a gap. -/
def marks (s : Scan) (c : Char) : Bool :=
  match s.rest with
  | d :: rest => d = c && isGap rest
  | [] => false

end Scan

/-- The characters of the name of an anchor. -/
def isAnchorChar (c : Char) : Bool := c.isAlphanum || c = '-' || c = '_'

/-- What may stand in front of a node. -/
inductive Property where
  | anchor (name : String)
  | tag (text : String)

/-- Reads the anchor or the tag at a place. -/
def property? : List Char → Option (Property × List Char)
  | '&' :: cs =>
    let name := cs.takeWhile isAnchorChar
    let rest := cs.dropWhile isAnchorChar
    if name.isEmpty || !(isGap rest || rest.head?.any isFlowMark) then none
    else some (.anchor (String.ofList name), rest)
  | '!' :: cs =>
    let isTag (c : Char) : Bool := !(isSpace c || c = '\n' || isFlowMark c)
    some (.tag (String.ofList (cs.takeWhile isTag)), cs.dropWhile isTag)
  | _ => none

/-- Whether an anchor or a tag stands at a place. -/
def startsProperty (cs : List Char) : Bool := cs.head? = some '&' || cs.head? = some '!'

/-- A node with the trace of a tag. -/
def Node.tagged (tag : String) : Node → Node
  | .scalar text .plain => .scalar text (if tag = "!null" then .nothing else .tagged)
  | node => node

/-- A node with what stands in front of it: it is kept under the name of its anchor. -/
def Property.put (p : Property) (r : Node × Scan) : Node × Scan :=
  match p with
  | .anchor name => (r.1, { r.2 with anchors := (name, r.1) :: r.2.anchors })
  | .tag text => (r.1.tagged text, r.2)

/-- Reads an alias after its star. -/
def alias? (s : Scan) (cs : List Char) : Option (Node × Scan) := do
  let name := cs.takeWhile isAnchorChar
  let node ← s.anchors.lookup (String.ofList name)
  some (node, s.ahead (name.length + 1) (cs.dropWhile isAnchorChar))

/-- Reads a quoted scalar, a plain one or an alias; further lines of a plain one stand at a
column of at least `margin`. -/
def scalar? (flow : Bool) (margin : Nat) (s : Scan) : Option (Node × Scan) :=
  match s.rest with
  | '"' :: cs => (quoted? '"' (cs.length + 1) cs).map fun (t, rest) =>
      (.scalar (String.ofList t) .quoted, s.ahead 1 rest)
  | '\'' :: cs => (quoted? '\'' (cs.length + 1) cs).map fun (t, rest) =>
      (.scalar (String.ofList t) .quoted, s.ahead 1 rest)
  | '*' :: cs => alias? s cs
  | cs =>
    if startsPlain flow cs then
      let (t, rest) := plain flow margin (cs.length + 1) cs
      some (.scalar (String.ofList t) .plain, s.ahead 1 rest)
    else none

mutual

/-- Reads a node of a flow collection; where nothing is written it is absent.  The number
bounds the steps. -/
def flowNode? : Nat → Scan → Option (Node × Scan)
  | 0, _ => none
  | n + 1, s =>
    let s := s.skip true true
    match s.rest with
    | '[' :: cs => flowItems? n (s.ahead 1 cs)
    | '{' :: cs => flowEntries? n (s.ahead 1 cs)
    | c :: cs =>
      if c = ',' || c = ']' || c = '}' || (c = ':' && (isGap cs || cs.head?.any isFlowMark)) then
        some (.absent, s)
      else if startsProperty (c :: cs) then do
        let (property, rest) ← property? (c :: cs)
        let r ← flowNode? n (s.ahead 1 rest)
        some (property.put r)
      else scalar? true 0 s
    | [] => none

/-- Reads a value after the colon in a flow collection, if a colon stands there. -/
def flowValue? : Nat → Scan → Option (Option Node × Scan)
  | 0, _ => none
  | n + 1, s =>
    let s := s.skip true true
    match s.rest with
    | ':' :: cs => (flowNode? n (s.ahead 1 cs)).map fun (v, s) => (some v, s)
    | _ => some (none, s)

/-- Reads the items of a flow sequence up to its bracket. -/
def flowItems? : Nat → Scan → Option (Node × Scan)
  | 0, _ => none
  | n + 1, s => do
    let s := s.skip true true
    match s.rest with
    | ']' :: cs => some (.sequence [], s.ahead 1 cs)
    | ',' :: _ => none
    | cs => do
      let s := if s.marks '?' then s.ahead 1 cs.tail else s
      let (key, s) ← flowNode? n s
      let (value, s) ← flowValue? n s
      let item := match value with
        | some v => .mapping [(key, v)]
        | none => key
      match s.rest with
      | ']' :: cs => some (.sequence [item], s.ahead 1 cs)
      | ',' :: cs => do
        let (rest, s) ← flowItems? n (s.ahead 1 cs)
        match rest with
        | .sequence items => some (.sequence (item :: items), s)
        | _ => none
      | _ => none

/-- Reads the entries of a flow mapping up to its brace. -/
def flowEntries? : Nat → Scan → Option (Node × Scan)
  | 0, _ => none
  | n + 1, s => do
    let s := s.skip true true
    match s.rest with
    | '}' :: cs => some (.mapping [], s.ahead 1 cs)
    | ',' :: _ => none
    | cs => do
      let s := if s.marks '?' then s.ahead 1 cs.tail else s
      let (key, s) ← flowNode? n s
      let (value, s) ← flowValue? n s
      let entry := (key, value.getD .absent)
      match s.rest with
      | '}' :: cs => some (.mapping [entry], s.ahead 1 cs)
      | ',' :: cs => do
        let (rest, s) ← flowEntries? n (s.ahead 1 cs)
        match rest with
        | .mapping entries => some (.mapping (entry :: entries), s)
        | _ => none
      | _ => none

end

/-- Reads a node that stands on its line without being a block collection. -/
def inline? (n margin : Nat) (s : Scan) : Option (Node × Scan) :=
  match s.rest with
  | '[' :: _ => flowNode? n s
  | '{' :: _ => flowNode? n s
  | '|' :: cs => (block? false margin cs).map fun (t, rest) =>
      (.scalar (String.ofList t) .quoted, { s with rest, column := 0, isFresh := true })
  | '>' :: cs => (block? true margin cs).map fun (t, rest) =>
      (.scalar (String.ofList t) .quoted, { s with rest, column := 0, isFresh := true })
  | _ => scalar? false margin s

/-- Reads a key with its colon on one line; nothing if none stands here. -/
def key? (n : Nat) (s : Scan) : Option (Node × Scan) := do
  let line := { s with rest := s.rest.takeWhile (· ≠ '\n') }
  let (property, line) ← if startsProperty line.rest then do
      let (property, rest) ← property? line.rest
      some (some property, { line with rest := rest.dropWhile isSpace })
    else some (none, line)
  let (key, line) ← match line.rest with
    | '|' :: _ => none
    | '>' :: _ => none
    | ':' :: cs => if isGap cs then some (Node.absent, line) else inline? n 0 line
    | _ => inline? n 0 line
  match line.rest.dropWhile isSpace with
  | ':' :: cs =>
    if isGap cs then
      let r := (key, s.ahead 1 (cs ++ s.rest.dropWhile (· ≠ '\n')))
      some ((property.map (·.put r)).getD r)
    else none
  | _ => none

mutual

/-- Reads a node whose token is the next one and stands at a column of at least `margin`.
With `collections` it may be a block collection that starts on this line.  The number
bounds the steps. -/
def node? : Nat → Nat → Bool → Scan → Option (Node × Scan)
  | 0, _, _, _ => none
  | n + 1, margin, collections, s =>
    if collections && s.marks '-' then
      (items? n s.column s).map fun (items, s) => (.sequence items, s)
    else if collections && (s.marks '?' || (key? n s).isSome) then
      (entries? n s.column s).map fun (entries, s) => (.mapping entries, s)
    else if startsProperty s.rest then do
      let (property, rest) ← property? s.rest
      let after := (s.ahead 1 rest).skip false true
      let r ← if after.rest.isEmpty || (after.isFresh && after.column < margin) then
          some (Node.absent, after)
        else node? n margin after.isFresh after
      some (property.put r)
    else inline? n margin s

/-- Reads the node after an entry's mark, for an entry that starts at a column.  With
`inner` a block collection may start on the same line, with `level` a sequence may stand
at the entry's own column. -/
def entryValue? : Nat → Nat → Bool → Bool → Scan → Option (Node × Scan)
  | 0, _, _, _, _ => none
  | n + 1, column, inner, level, s =>
    let s := s.skip false (!inner)
    if s.rest.isEmpty then some (.absent, s)
    else if !s.isFresh then node? n (column + 1) inner s
    else if column < s.column then node? n (column + 1) true s
    else if level && s.column = column && s.marks '-' then
      (items? n column s).map fun (items, s) => (.sequence items, s)
    else some (.absent, s)

/-- Reads the items of a block sequence at a column. -/
def items? : Nat → Nat → Scan → Option (List Node × Scan)
  | 0, _, _ => none
  | n + 1, column, s => do
    let (item, s) ← entryValue? n column true false (s.ahead 1 s.rest.tail)
    let s := s.skip false true
    if s.rest.isEmpty || (s.isFresh && s.column < column) then some ([item], s)
    else if s.isFresh && s.column = column then
      if s.marks '-' then do
        let (items, s) ← items? n column s
        some (item :: items, s)
      else some ([item], s)
    else none

/-- Reads the entries of a block mapping at a column. -/
def entries? : Nat → Nat → Scan → Option (List (Node × Node) × Scan)
  | 0, _, _ => none
  | n + 1, column, s => do
    let (entry, s) ← if s.marks '?' then do
        let (key, s) ← entryValue? n column true true (s.ahead 1 s.rest.tail)
        let s := s.skip false true
        if s.isFresh && s.column = column && s.marks ':' then do
          let (value, s) ← entryValue? n column true true (s.ahead 1 s.rest.tail)
          some ((key, value), s)
        else some ((key, Node.absent), s)
      else do
        let (key, s) ← key? n s
        let (value, s) ← entryValue? n column false true s
        some ((key, value), s)
    let s := s.skip false true
    if s.rest.isEmpty || (s.isFresh && s.column < column) then some ([entry], s)
    else if s.isFresh && s.column = column then do
      let (entries, s) ← entries? n column s
      some (entry :: entries, s)
    else none

end

/-- A text with `\n` for every line break, and without a byte order mark at its head. -/
def plainBreaks : List Char → List Char
  | '\r' :: '\n' :: cs => '\n' :: plainBreaks cs
  | '\r' :: cs => '\n' :: plainBreaks cs
  | '\uFEFF' :: cs => plainBreaks cs
  | c :: cs => c :: plainBreaks cs
  | [] => []

/-- Whether a line marks the start or the end of a document. -/
def isMarker (mark line : List Char) : Bool := mark.isPrefixOf line && isGap (line.drop 3)

/-- Whether a line holds nothing or a comment. -/
def isIdleLine (line : List Char) : Bool :=
  match line.dropWhile isSpace with
  | [] => true
  | c :: _ => c = '#'

/-- The lines of a text from its first document on, without the directives and the marker in
front of it; what stands behind the marker is a first line of its own. -/
def documentLines : List (List Char) → Option (Option (List Char) × List (List Char))
  | [] => some (none, [])
  | line :: lines =>
    if isMarker ['-', '-', '-'] line then some (some (line.drop 3), lines)
    else if line.head? = some '%' then do
      let (first, rest) ← documentLines lines
      if first.isNone then none else some (first, rest)
    else if isIdleLine line then documentLines lines
    else some (none, line :: lines)

/-- The lines of a document up to the marker behind it; nothing if another document
follows. -/
def ownLines? : List (List Char) → Option (List (List Char))
  | [] => some []
  | line :: lines =>
    if isMarker ['-', '-', '-'] line then none
    else if isMarker ['.', '.', '.'] line then
      if lines.all fun l => isIdleLine l || isMarker ['.', '.', '.'] l then some [] else none
    else (ownLines? lines).map (line :: ·)

/-- The lines of a text. -/
def linesOf : List Char → List (List Char)
  | [] => [[]]
  | c :: cs =>
    match linesOf cs with
    | [] => [[c]]
    | line :: lines => if c = '\n' then [] :: line :: lines else (c :: line) :: lines

/-- The root of the one document of a text: `some none` if the document is empty, and
nothing if the text is no document. -/
def Node.ofText? (text : String) : Option (Option Node) := do
  let (first, lines) ← documentLines (linesOf (plainBreaks text.toList))
  let lines ← ownLines? lines
  let cs := ['\n'].intercalate ((first.getD []) :: lines)
  let s : Scan := (⟨cs, 0, first.isNone, []⟩ : Scan).skip false true
  if s.rest.isEmpty then some none
  else do
    let (node, s) ← node? (4 * cs.length + 8) 0 (first.isNone || s.isFresh) s
    if (s.skip false true).rest.isEmpty then some (some node) else none

end Yaml
end LintWorkspace
