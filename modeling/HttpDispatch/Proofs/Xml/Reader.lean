import HttpDispatch.Negotiation.Xml

/-!
# Reading markup

A plain reader of start tags, end tags, empty-element tags and text, in which the five
characters that have an entity may be written by it.  It goes over the markup once,
character by character: `Reader.step` says what one character does to what has been read so
far, and `read?` answers with the tree if the whole markup is one element.

There are no attributes, comments, instructions or character references, and no blanks in
tags; what needs them is refused.  Nor does a text hold `]]>`.

`read?_write` says that a tree is read back from its own markup.  It holds of every tree that
is **legible** (`Node.Legible`): each name can stand in a tag, no text is empty, and no two
texts are next to each other, since nothing in the markup would tell where one ends.
-/

namespace HttpDispatch.Xml

/-! ### The reader -/

/-- The characters that have a meaning in tags, or end a name there. -/
def delimiters : List Char :=
  ['<', '>', '/', '&', '=', '"', '\'', '!', '?', ' ', '\t', '\n', '\r']

/-- Whether a character is one of them. -/
def isDelimiter (c : Char) : Bool := delimiters.contains c

/-- Whether characters can be the name in a tag. -/
def isReadable (name : List Char) : Bool := name ≠ [] && !name.any isDelimiter

/-- The character that an entity stands for. -/
def entity? (name : List Char) : Option Char :=
  if name = "amp".toList then some '&'
  else if name = "lt".toList then some '<'
  else if name = "gt".toList then some '>'
  else if name = "quot".toList then some '"'
  else if name = "apos".toList then some '\''
  else none

/-- What has been read of the content of an element: nodes, and the characters of a text that
may go on. -/
structure Content where
  /-- The nodes that are complete. -/
  nodes : List Node
  /-- The text after them. -/
  text : List Char

namespace Content

/-- Nothing has been read. -/
def none : Content := ⟨[], []⟩

/-- The text goes on. -/
def push (content : Content) (cs : List Char) : Content :=
  { content with text := content.text ++ cs }

/-- The nodes, if the text does not go on. -/
def all (content : Content) : List Node :=
  if content.text = [] then content.nodes
  else content.nodes ++ [.text (String.ofList content.text)]

/-- A node is complete. -/
def add (content : Content) : Node → Content
  | .text s => content.push s.toList
  | node => ⟨content.all ++ [node], []⟩

end Content

/-- Where in the markup a reader is. -/
inductive Place where
  /-- Between tags. -/
  | content
  /-- In a tag, of which some characters have been read. -/
  | tag (body : List Char)
  /-- In an entity reference, of which some characters have been read. -/
  | reference (name : List Char)

/-- **A reader** in the middle of its work. -/
structure Reader where
  /-- Where it is. -/
  place : Place
  /-- What it has read of the innermost element that is open. -/
  current : Content
  /-- The names of the open elements, innermost first, each with what comes before it in the
  element around it. -/
  outer : List (List Char × Content)

namespace Reader

/-- A reader that has read nothing. -/
def start : Reader := ⟨.content, .none, []⟩

/-- Between tags, with some content. -/
def within (current : Content) (outer : List (List Char × Content)) : Reader :=
  ⟨.content, current, outer⟩

/-- **The end of a tag**, whose characters between `<` and `>` are given. -/
def endTag (r : Reader) (body : List Char) : Option Reader :=
  match body with
  | '/' :: name =>
    -- only the innermost open element can end here
    match r.outer with
    | (opened, before) :: outer =>
      if opened = name then
        some (within (before.add (.element (String.ofList name) r.current.all)) outer)
      else none
    | [] => none
  | _ =>
    if body.getLast? = some '/' then
      if isReadable body.dropLast then
        some (within (r.current.add (.empty (String.ofList body.dropLast))) r.outer)
      else none
    else if isReadable body then some (within .none ((body, r.current) :: r.outer))
    else none

/-- **What a character does.** -/
def step (r : Reader) (c : Char) : Option Reader :=
  match r.place with
  | .content =>
    if c = '<' then some { r with place := .tag [] }
    else if c = '&' then some { r with place := .reference [] }
    else if c = '>' ∧ "]]".toList <:+ r.current.text then none
    else some { r with current := r.current.push [c] }
  | .tag body =>
    if c = '>' then r.endTag body
    else if c = '<' then none
    else some { r with place := .tag (body ++ [c]) }
  | .reference name =>
    if c = ';' then
      (entity? name).map fun e => { r with place := .content, current := r.current.push [e] }
    else some { r with place := .reference (name ++ [c]) }

/-- **What characters do**, one after the other. -/
def run (r : Reader) (cs : List Char) : Option Reader := cs.foldlM step r

/-- The root element, once it is complete. -/
def root? (r : Reader) : Option Node :=
  match r.place, r.current.all, r.outer with
  | .content, [.element name content], [] => some (.element name content)
  | .content, [.empty name], [] => some (.empty name)
  | _, _, _ => none

end Reader

/-- **Read markup**: the element that it is, if it is one. -/
def read? (markup : List Char) : Option Node := (Reader.start.run markup).bind Reader.root?

/-! ### Legible trees -/

/-- Whether a node is a text. -/
def Node.isText : Node → Bool
  | .text _ => true
  | _ => false

/-- The first of some nodes, if any, does not continue a text before it. -/
def StartApart (nodes : List Node) : Prop := ∀ node ∈ nodes.head?, node.isText = false

mutual

/-- **A legible tree.** -/
def Node.Legible : Node → Prop
  | .text s => s ≠ ""
  | .empty name => isReadable name.toList = true
  | .element name content => isReadable name.toList = true ∧ AllLegible content

/-- **Legible content**: its nodes are legible, and no two texts are next to each other. -/
def AllLegible : List Node → Prop
  | [] => True
  | node :: nodes =>
    node.Legible ∧ (node.isText = true → StartApart nodes) ∧ AllLegible nodes

end

namespace Content

/-! ### What is added is found again -/

@[simp] theorem all_none : none.all = [] := rfl

theorem push_push (content : Content) (cs cs' : List Char) :
    (content.push cs).push cs' = content.push (cs ++ cs') := by
  simp [push]

/-- A text that is added becomes a node of its own, unless it continues another. -/
theorem all_push {content : Content} {cs : List Char} (hcs : cs ≠ []) (htext : content.text = []) :
    (content.push cs).all = content.all ++ [.text (String.ofList cs)] := by
  simp [push, all, htext, hcs]

/-- Nodes that are added in turn. -/
def addAll (content : Content) (nodes : List Node) : Content := nodes.foldl add content

/-- **What has been added is there to be read**, after what was there before, if no text is
continued. -/
theorem all_addAll {content : Content} {nodes : List Node} (hlegible : AllLegible nodes)
    (hfirst : content.text = [] ∨ StartApart nodes) :
    (content.addAll nodes).all = content.all ++ nodes := by
  induction nodes generalizing content with
  | nil => simp [addAll]
  | cons node nodes ih =>
      obtain ⟨hnode, happart, hnodes⟩ := hlegible
      -- a text would be joined to the text before it, which `hfirst` rules out
      have hadd : (content.add node).all = content.all ++ [node] := by
        cases node with
        | text s =>
            have htext : content.text = [] := hfirst.resolve_right fun h => by
              simpa [Node.isText] using h _ rfl
            have hs : s.toList ≠ [] := mt String.toList_eq_nil_iff.1 hnode
            simpa [add] using all_push hs htext
        | empty name => simp [add, all]
        | element name content => simp [add, all]
      have hnext : (content.add node).text = [] ∨ StartApart nodes := by
        cases node with
        | text s => exact .inr (happart rfl)
        | empty name => exact .inl rfl
        | element name content => exact .inl rfl
      calc ((content.add node).addAll nodes).all = (content.add node).all ++ nodes :=
            ih hnodes hnext
        _ = content.all ++ (node :: nodes) := by rw [hadd, List.append_assoc]; rfl

end Content

namespace Reader

/-! ### Single steps and short runs -/

variable {r : Reader} {current : Content} {outer : List (List Char × Content)}

@[simp] theorem run_nil (r : Reader) : r.run [] = some r := rfl

@[simp] theorem run_cons (r : Reader) (c : Char) (cs : List Char) :
    r.run (c :: cs) = (r.step c).bind (·.run cs) := rfl

theorem run_append (r : Reader) (cs cs' : List Char) :
    r.run (cs ++ cs') = (r.run cs).bind (·.run cs') := List.foldlM_append

/-- An escaped character adds that character to the text. -/
theorem run_escapeChar (c : Char) :
    (within current outer).run (escapeChar c) = some (within (current.push [c]) outer) := by
  by_cases hamp : c = '&'
  · subst hamp
    rfl
  by_cases hlt : c = '<'
  · subst hlt
    rfl
  by_cases hgt : c = '>'
  · subst hgt
    rfl
  by_cases hquot : c = '"'
  · subst hquot
    rfl
  by_cases hapos : c = '\''
  · subst hapos
    rfl
  simp [escapeChar, hamp, hlt, hgt, hquot, hapos, step, within]

/-- **An escaped text is read as that text.** -/
theorem run_text (cs : List Char) :
    (within current outer).run (cs.flatMap escapeChar) = some (within (current.push cs) outer) := by
  induction cs generalizing current with
  | nil => simp [Content.push]
  | cons c cs ih =>
      rw [List.flatMap_cons, run_append, run_escapeChar, Option.bind_some, ih,
        Content.push_push]
      rfl

/-- In a tag, characters are kept up to the end of it. -/
theorem run_body {read body : List Char} (h : ∀ c ∈ body, c ≠ '<' ∧ c ≠ '>') :
    Reader.run ⟨.tag read, current, outer⟩ body = some ⟨.tag (read ++ body), current, outer⟩ := by
  induction body generalizing read with
  | nil => simp
  | cons c body ih =>
      obtain ⟨hlt, hgt⟩ := h c List.mem_cons_self
      have hstep : Reader.step ⟨.tag read, current, outer⟩ c
          = some ⟨.tag (read ++ [c]), current, outer⟩ := by simp [step, hlt, hgt]
      rw [run_cons, hstep, Option.bind_some, ih fun c hc => h c (List.mem_cons_of_mem _ hc),
        List.append_assoc]
      rfl

/-- **A tag has the effect of its end.** -/
theorem run_tag {body : List Char} (h : ∀ c ∈ body, c ≠ '<' ∧ c ≠ '>') :
    (within current outer).run ('<' :: body ++ ['>']) = (within current outer).endTag body := by
  have hopen : (within current outer).step '<' = some ⟨.tag [], current, outer⟩ := rfl
  rw [List.cons_append, run_cons, hopen, Option.bind_some, run_append, run_body h,
    Option.bind_some, run_cons]
  exact Option.bind_fun_some _

/-! ### The three kinds of tags -/

/-- What can be the name in a tag. -/
theorem isReadable_iff {name : List Char} :
    isReadable name = true ↔ name ≠ [] ∧ ∀ c ∈ name, isDelimiter c = false := by
  simp [isReadable]

/-- A character of a name is none that has a meaning in tags. -/
theorem ne_of_mem_of_isReadable {name : List Char} {c delimiter : Char}
    (h : isReadable name = true) (hc : c ∈ name) (hdelimiter : isDelimiter delimiter = true) :
    c ≠ delimiter := by
  rintro rfl
  rw [(isReadable_iff.1 h).2 c hc] at hdelimiter
  cases hdelimiter

/-- A name does not end the tag that it is in. -/
theorem inside_of_isReadable {name : List Char} (h : isReadable name = true) :
    ∀ c ∈ name, c ≠ '<' ∧ c ≠ '>' := fun _ hc =>
  ⟨ne_of_mem_of_isReadable h hc (by decide), ne_of_mem_of_isReadable h hc (by decide)⟩

/-- **A start tag** opens an element. -/
theorem run_startTag {name : List Char} (h : isReadable name = true) :
    (within current outer).run ('<' :: name ++ ['>'])
      = some (within .none ((name, current) :: outer)) := by
  rw [run_tag (inside_of_isReadable h)]
  obtain ⟨c, cs, rfl⟩ := List.exists_cons_of_ne_nil (isReadable_iff.1 h).1
  have hfirst : c ≠ '/' := ne_of_mem_of_isReadable h List.mem_cons_self (by decide)
  have hlast : (c :: cs).getLast? ≠ some '/' := fun hlast =>
    ne_of_mem_of_isReadable h (List.mem_of_getLast? hlast) (by decide) rfl
  rw [endTag.eq_2 _ _ (by simpa using hfirst), if_neg hlast, if_pos h]
  rfl

/-- **An empty-element tag** is a node. -/
theorem run_emptyTag {name : List Char} (h : isReadable name = true) :
    (within current outer).run ('<' :: name ++ ['/', '>'])
      = some (within (current.add (.empty (String.ofList name))) outer) := by
  have hbody : ∀ c ∈ name ++ ['/'], c ≠ '<' ∧ c ≠ '>' := by
    intro c hc
    rcases List.mem_append.1 hc with hc | hc
    · exact inside_of_isReadable h c hc
    · rw [List.mem_singleton.1 hc]
      decide
  have htag : '<' :: name ++ ['/', '>'] = '<' :: (name ++ ['/']) ++ ['>'] := by simp
  rw [htag, run_tag hbody]
  obtain ⟨c, cs, rfl⟩ := List.exists_cons_of_ne_nil (isReadable_iff.1 h).1
  have hfirst : c ≠ '/' := ne_of_mem_of_isReadable h List.mem_cons_self (by decide)
  rw [endTag.eq_2 _ _ (by simpa using hfirst), if_pos List.getLast?_concat, List.dropLast_concat,
    if_pos h]
  rfl

/-- **An end tag** closes the element of its name. -/
theorem run_endTag {name : List Char} {before : Content} (h : isReadable name = true) :
    (within current ((name, before) :: outer)).run ('<' :: '/' :: name ++ ['>'])
      = some (within (before.add (.element (String.ofList name) current.all)) outer) := by
  have hbody : ∀ c ∈ '/' :: name, c ≠ '<' ∧ c ≠ '>' := by
    intro c hc
    rcases List.mem_cons.1 hc with rfl | hc
    · decide
    · exact inside_of_isReadable h c hc
  rw [run_tag hbody]
  exact if_pos rfl

/-! ### Whole trees -/

mutual

/-- **A node is read as it is written.** -/
theorem run_write {current : Content} {outer : List (List Char × Content)} :
    {node : Node} → node.Legible →
      (within current outer).run (write node) = some (within (current.add node) outer)
  | .text s, _ => by
      rw [write, run_text]
      rfl
  | .empty name, h => by
      rw [write, run_emptyTag h, String.ofList_toList]
  | .element name content, ⟨hname, hcontent⟩ => by
      -- the start tag puts aside what has been read, the content is read from nothing, and the
      -- end tag takes up what was put aside
      have hmarkup : write (.element name content)
          = ('<' :: name.toList ++ ['>']) ++
            (writeAll content ++ ('<' :: '/' :: name.toList ++ ['>'])) := by simp [write]
      rw [hmarkup, run_append, run_startTag hname, Option.bind_some, run_append,
        run_writeAll hcontent, Option.bind_some, run_endTag hname, String.ofList_toList,
        Content.all_addAll hcontent (.inl rfl)]
      rfl

/-- **Nodes are read in turn.** -/
theorem run_writeAll {current : Content} {outer : List (List Char × Content)} :
    {nodes : List Node} → AllLegible nodes →
      (within current outer).run (writeAll nodes) = some (within (current.addAll nodes) outer)
  | [], _ => rfl
  | node :: nodes, ⟨hnode, _, hnodes⟩ => by
      rw [writeAll, run_append, run_write hnode, Option.bind_some, run_writeAll hnodes]
      rfl

end

end Reader

/-- **A tree is read back from its markup**, if it is legible and no mere text. -/
theorem read?_write {root : Node} (h : root.Legible) (hroot : root.isText = false) :
    read? (write root) = some root := by
  have hrun : Reader.start.run (write root) = some (Reader.within (Content.none.add root) []) :=
    Reader.run_write h
  rw [read?, hrun, Option.bind_some]
  cases root with
  | text s => cases hroot
  | empty name => rfl
  | element name content => rfl

end HttpDispatch.Xml
