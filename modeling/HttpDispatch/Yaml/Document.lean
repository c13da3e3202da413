import HttpDispatch.Yaml.Layout
import HttpDispatch.Yaml.Node

/-!
# YAML documents

`Document.parse` reads a text that holds one document, from its tokens.

* **Contents.**  A node is an alias, or a scalar or a collection that may have a name
  and a tag.  Where a node may be left out, or has a name or a tag only, an empty plain
  scalar takes its place.
* **Names.**  A name is known from the start of its node on, so that a node may contain
  an alias of itself.  Aliases go by numbers: a name gets the number of names known
  before, not counting itself.  So a name that is given again may get a number that the
  next new name gets, too; then both stand for the node of the latter.
* **Tags.**  A handle before a tag stands for the bytes that a directive gives it.

## Design notes

The functions call each other on fewer and fewer tokens.  They recurse on a budget
instead, which `Document.ofTokens?` sets to more than they can use: of four nested
calls, one at least moves over a token.
-/

namespace HttpDispatch.Yaml

/-! ### What is known while tokens are read -/

/-- The tokens that are left, and what those before them say. -/
structure Reader where
  /-- The tokens that are left. -/
  tokens : List Token
  /-- What handles stand for. -/
  handles : List (List Char × Tag)
  /-- The numbers of the names. -/
  names : List (List Char × Nat)
  /-- The named nodes under their numbers, in the order in which they start, the last one
  first. -/
  numbered : List (Nat × Node)

namespace Reader

/-- Move over the next token. -/
def skip (s : Reader) : Reader := { s with tokens := s.tokens.drop 1 }

/-- Whether one of some tokens is next. -/
def isAt (s : Reader) (ts : List Token) : Bool := s.tokens.head?.any (· ∈ ts)

/-- Give the node that starts here a name. -/
def addName (s : Reader) (name : List Char) : Reader :=
  let number := s.names.length
  { s with
    names := (name, number) :: s.names.filter (·.1 ≠ name)
    numbered := (number, .absent) :: s.numbered }

/-- Fill in the node that was the one with `place` named nodes before it. -/
def setNode (s : Reader) (place : Nat) (n : Node) : Reader :=
  { s with numbered := s.numbered.modify (s.numbered.length - 1 - place) fun e => (e.1, n) }

/-- The tag of a handle and what it stands before. -/
def tag? (s : Reader) (handle : List Char) (rest : Tag) : Option Tag :=
  if handle = [] then some rest else (s.handles.lookup handle).map (· ++ rest)

end Reader

/-- What may stand before the contents of a node. -/
structure Properties where
  /-- The number of named nodes before it, if it has a name. -/
  place : Option Nat
  /-- Its tag. -/
  tag : Option Tag

namespace Properties

/-- Whether there are none. -/
def isEmpty (p : Properties) : Bool := p.place.isNone && p.tag.isNone

/-- **Read the properties of a node**: a name and a tag, in either order, each at most
once. -/
def read? (s : Reader) : Option (Properties × Reader) :=
  let named (name : List Char) (s : Reader) : Nat × Reader :=
    (s.numbered.length, s.skip.addName name)
  match s.tokens with
  | .anchor name :: .tag handle rest :: _ => do
    let tag ← s.tag? handle rest
    let (place, s) := named name s
    return (⟨some place, some tag⟩, s.skip)
  | .anchor name :: _ =>
    let (place, s) := named name s
    some (⟨some place, none⟩, s)
  | .tag handle rest :: .anchor name :: _ => do
    let tag ← s.tag? handle rest
    let (place, s) := named name s.skip
    return (⟨some place, some tag⟩, s)
  | .tag handle rest :: _ => return (⟨none, ← s.tag? handle rest⟩, s.skip)
  | _ => some (⟨none, none⟩, s)

end Properties

/-! ### Nodes -/

namespace Reader

mutual

/-- **Read a node.**  `columns` tells whether it may be a collection in a column, `dashes`
whether it may be a sequence whose dashes stand in the column of the mapping around
it. -/
def node? : Nat → (columns dashes : Bool) → Reader → Option (Node × Reader)
  | 0, _, _, _ => none
  | fuel + 1, columns, dashes, s =>
    match s.tokens with
    | .alias name :: _ => do return (.alias (← s.names.lookup name), s.skip)
    | _ => do
      let (properties, s) ← Properties.read? s
      let (node, s) ← contents? fuel columns dashes properties s
      match properties.place with
      | some place => return (node, s.setNode place node)
      | none => return (node, s)

/-- Read the contents of a node that has some properties. -/
def contents? : Nat → (columns dashes : Bool) → Properties → Reader → Option (Node × Reader)
  | 0, _, _, _, _ => none
  | fuel + 1, columns, dashes, properties, s =>
    let sequence (read : Option (List Node × Reader)) : Option (Node × Reader) :=
      read.map fun (items, s) => (.sequence items, s)
    let mapping (read : Option (List (Node × Node) × Reader)) : Option (Node × Reader) :=
      read.map fun (entries, s) => (.mapping entries, s)
    match s.tokens, columns, dashes with
    | .scalar text style :: _, _, _ =>
      let tag := properties.tag.filter (· ≠ Tag.nonSpecific)
      some (.scalar (String.ofList text) style tag, s.skip)
    | .openSequence :: _, _, _ => sequence (flowItems? fuel true s.skip)
    | .openMapping :: _, _, _ => mapping (flowEntries? fuel true s.skip)
    | .blockSequence :: _, true, _ => sequence (blockItems? fuel s.skip)
    | .blockMapping :: _, true, _ => mapping (blockEntries? fuel s.skip)
    | .blockItem :: _, _, true => sequence (dashItems? fuel s)
    | _, _, _ =>
      if properties.isEmpty then none else some (.scalar "" .plain properties.tag, s)

/-- Read a node that is left out where one of some tokens stands. -/
def optional? : Nat → (omitted : List Token) → (columns dashes : Bool) → Reader →
    Option (Node × Reader)
  | 0, _, _, _, _ => none
  | fuel + 1, omitted, columns, dashes, s =>
    if s.isAt omitted then some (.absent, s) else node? fuel columns dashes s

/-- Read the items of a sequence in a column of its own. -/
def blockItems? : Nat → Reader → Option (List Node × Reader)
  | 0, _ => none
  | fuel + 1, s =>
    match s.tokens with
    | .blockItem :: _ => do
      let (item, s) ← optional? fuel [.blockItem, .blockEnd] true false s.skip
      let (items, s) ← blockItems? fuel s
      return (item :: items, s)
    | .blockEnd :: _ => some ([], s.skip)
    | _ => none

/-- Read the items of a sequence whose dashes stand in the column of the mapping around
it.  It ends where no dash stands. -/
def dashItems? : Nat → Reader → Option (List Node × Reader)
  | 0, _ => none
  | fuel + 1, s =>
    match s.tokens with
    | .blockItem :: _ => do
      let (item, s) ← optional? fuel [.blockItem, .key, .value, .blockEnd] true false s.skip
      let (items, s) ← dashItems? fuel s
      return (item :: items, s)
    | _ => some ([], s)

/-- Read the entries of a mapping in a column. -/
def blockEntries? : Nat → Reader → Option (List (Node × Node) × Reader)
  | 0, _ => none
  | fuel + 1, s =>
    match s.tokens with
    | .key :: _ => do
      let (key, s) ← optional? fuel [.key, .value, .blockEnd] true true s.skip
      let (value, s) ←
        if s.isAt [.value] then optional? fuel [.key, .value, .blockEnd] true true s.skip
        else some (Node.absent, s)
      let (entries, s) ← blockEntries? fuel s
      return ((key, value) :: entries, s)
    | .blockEnd :: _ => some ([], s.skip)
    | _ => none

/-- Read the items of a sequence in brackets; `first` tells that none was read.  An item
with a key is a mapping of that entry.  A key that is left out takes the token after it
along. -/
def flowItems? : Nat → (first : Bool) → Reader → Option (List Node × Reader)
  | 0, _, _ => none
  | fuel + 1, first, s =>
    if s.isAt [.closeSequence] then some ([], s.skip)
    else if !first && !s.isAt [.comma] then none
    else
      let s := if first then s else s.skip
      match s.tokens with
      | .closeSequence :: _ => some ([], s.skip)
      | .key :: _ => do
        let (key, s) ←
          if s.skip.isAt [.value, .comma, .closeSequence] then some (Node.absent, s.skip.skip)
          else node? fuel false false s.skip
        let (value, s) ←
          if s.isAt [.value] then optional? fuel [.comma, .closeSequence] false false s.skip
          else some (Node.absent, s)
        let (items, s) ← flowItems? fuel false s
        return (.mapping [(key, value)] :: items, s)
      | _ => do
        let (item, s) ← node? fuel false false s
        let (items, s) ← flowItems? fuel false s
        return (item :: items, s)

/-- Read the entries of a mapping in braces; `first` tells that none was read.  A node
that is not marked as a key is one without a value. -/
def flowEntries? : Nat → (first : Bool) → Reader → Option (List (Node × Node) × Reader)
  | 0, _, _ => none
  | fuel + 1, first, s =>
    if s.isAt [.closeMapping] then some ([], s.skip)
    else if !first && !s.isAt [.comma] then none
    else
      let s := if first then s else s.skip
      match s.tokens with
      | .closeMapping :: _ => some ([], s.skip)
      | .key :: _ => do
        let (key, s) ← optional? fuel [.value, .comma, .closeMapping] false false s.skip
        let (value, s) ←
          if s.isAt [.value] then optional? fuel [.comma, .closeMapping] false false s.skip
          else some (Node.absent, s)
        let (entries, s) ← flowEntries? fuel false s
        return ((key, value) :: entries, s)
      | _ => do
        let (key, s) ← node? fuel false false s
        let (entries, s) ← flowEntries? fuel false s
        return ((key, .absent) :: entries, s)

end

end Reader

/-! ### Documents -/

/-- What handles stand for unless a directive tells otherwise. -/
def standardHandles : List (List Char × Tag) :=
  [(['!'], Tag.ofAscii "!"), (['!', '!'], Tag.standard)]

/-- **Read the directives** before a document.  There is at most one version, which has
to be 1.1 or 1.2, and one meaning of each handle. -/
def directives? (versioned : Bool) (handles : List (List Char × Tag)) :
    List Token → Option (List (List Char × Tag) × List Token)
  | .version major minor :: rest =>
    if versioned || major ≠ 1 || (minor ≠ 1 && minor ≠ 2) then none
    else directives? true handles rest
  | .handle name lead :: rest =>
    if (handles.lookup name).isSome then none
    else directives? versioned ((name, lead) :: handles) rest
  | rest => some (handles, rest)

/-- Whether a document has no contents before a token. -/
def isOutside : Token → Bool
  | .version _ _ | .handle _ _ | .documentStart | .documentEnd => true
  | _ => false

namespace Document

/-- **The document that some tokens mean**, or `none` if there is not exactly one; without
any token its root is the node that stands for nothing.  Directives need a marker
after them. -/
def ofTokens? (tokens : List Token) : Option Document :=
  if tokens = [] then some ⟨.absent, []⟩
  else do
    let (handles, rest) ← directives? false [] tokens
    let s : Reader := ⟨rest, handles ++ standardHandles, [], []⟩
    let (root, s) ← match rest with
      | .documentStart :: contents =>
        if contents.head?.all isOutside then some (Node.absent, s.skip)
        else s.skip.node? (4 * tokens.length + 4) true false
      | _ =>
        if rest.length = tokens.length then s.node? (4 * tokens.length + 4) true false
        else none
    if s.tokens.dropWhile (· = .documentEnd) = [] then some ⟨root, s.numbered⟩ else none

/-- **Read a document**, `none` if the text is not that of one. -/
def parse (text : String) : Option Document := (tokens? text).bind ofTokens?

end Document

end HttpDispatch.Yaml
