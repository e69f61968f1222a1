import AlertReceivers.Yaml.Lexer
import AlertReceivers.Yaml.Tree

namespace AlertReceivers.Yaml

/-!
# Documents

Tokens are put together to the tree of a document.  A text holds at most one
document.  Anchors are numbered as they are defined: the number of an anchor is the
number of names that were in use before.
-/

/-- The handles of tags and what they stand for. -/
abbrev TagHandles :=
  List (String × List UInt8)

/-- The tokens that are left, and the numbers of the anchors so far. -/
structure Remaining where
  tokens : List Token
  anchors : List (String × Nat)
  deriving Repr

namespace Remaining

/-- The kind of the next token. -/
def next? (remaining : Remaining) : Option TokenKind :=
  remaining.tokens.head?.map (·.kind)

/-- Whether the next token is of one of some kinds. -/
def nextIs (remaining : Remaining) (kinds : List TokenKind) : Bool :=
  remaining.next?.any kinds.contains

/-- Leave out the next token. -/
def advance (remaining : Remaining) : Remaining :=
  { remaining with tokens := remaining.tokens.tail }

/-- Where the next token starts. -/
def mark (remaining : Remaining) : Mark :=
  (remaining.tokens.head?.map (·.start)).getD .start

/-- Where the next token stops. -/
def stop (remaining : Remaining) : Mark :=
  (remaining.tokens.head?.map (·.stop)).getD .start

/-- Give an anchor the next number, whether its name is in use already or not. -/
def define (remaining : Remaining) (name : String) : Remaining :=
  { remaining with
    anchors :=
      (name, remaining.anchors.length) ::
        remaining.anchors.filter fun anchor => anchor.1 != name }

end Remaining

/-- The properties of a value as they are written. -/
structure Properties where
  anchor? : Option String
  tag? : Option (String × List UInt8)
  deriving Repr, DecidableEq

namespace Properties

/-- Read the properties in front of a value: an anchor and a tag, in either order. -/
def read (remaining : Remaining) : Properties × Remaining :=
  match remaining.tokens with
  | ⟨.anchor name, _, _⟩ :: ⟨.tag handle suffix, _, _⟩ :: rest =>
      (⟨some name, some (handle, suffix)⟩, { remaining with tokens := rest })
  | ⟨.tag handle suffix, _, _⟩ :: ⟨.anchor name, _, _⟩ :: rest =>
      (⟨some name, some (handle, suffix)⟩, { remaining with tokens := rest })
  | ⟨.anchor name, _, _⟩ :: rest =>
      (⟨some name, none⟩, { remaining with tokens := rest })
  | ⟨.tag handle suffix, _, _⟩ :: rest =>
      (⟨none, some (handle, suffix)⟩, { remaining with tokens := rest })
  | _ =>
      (⟨none, none⟩, remaining)

/-- The tag of a handle and a suffix.  There is none for an unknown handle. -/
def fullTag?
    (handles : TagHandles)
    (handle : String)
    (suffix : List UInt8) :
    Option (List UInt8) :=
  if handle.isEmpty then
    some suffix
  else
    (handles.lookup handle).map fun meaning => meaning ++ suffix

/-- Give a value at a place its properties. -/
def apply
    (properties : Properties)
    (handles : TagHandles)
    (mark : Mark)
    (remaining : Remaining) :
    Option (Origin × Remaining) := do
  let tag? ←
    match properties.tag? with
    | some (handle, suffix) => do
        let tag ← fullTag? handles handle suffix
        some (some tag)
    | none =>
        some none
  match properties.anchor? with
  | some name =>
      some (⟨mark, some remaining.anchors.length, tag?⟩, remaining.define name)
  | none =>
      some (⟨mark, none, tag?⟩, remaining)

/-- Whether there are no properties. -/
def isEmpty (properties : Properties) : Bool :=
  properties.anchor?.isNone && properties.tag?.isNone

end Properties

mutual

/-- Compose a value.  Blocks may start only outside of brackets, and the entries of a
sequence may stand under a key without being indented. -/
def composeNode
    (handles : TagHandles)
    (inBlock underKey : Bool) :
    Nat → Remaining → Option (Tree × Remaining)
  | 0, _ =>
      none
  | fuel + 1, remaining =>
      match remaining.next? with
      | some (.reference name) => do
          let number ← remaining.anchors.lookup name
          some (.reference remaining.mark number, remaining.advance)
      | _ => do
          let (properties, content) := Properties.read remaining
          let (origin, content) ← properties.apply handles remaining.mark content
          match content.next?, inBlock with
          | some .blockEntry, _ =>
              if underKey then do
                let (items, after) ← composeIndentless handles fuel content
                some (.sequence origin items, after)
              else if properties.isEmpty then
                none
              else
                some (.scalar origin true "", content)
          | some (.scalar isPlain text), _ =>
              some (.scalar origin isPlain text, content.advance)
          | some .flowSequenceStart, _ => do
              let (items, after) ← composeFlowItems handles true fuel content.advance
              some (.sequence origin items, after)
          | some .flowMappingStart, _ => do
              let (entries, after) ← composeFlowEntries handles true fuel content.advance
              some (.mapping origin entries, after)
          | some .blockSequenceStart, true => do
              let (items, after) ← composeBlockItems handles fuel content.advance
              some (.sequence origin items, after)
          | some .blockMappingStart, true => do
              let (entries, after) ← composeBlockEntries handles fuel content.advance
              some (.mapping origin entries, after)
          | _, _ =>
              if properties.isEmpty then none else some (.scalar origin true "", content)

/-- Compose a value unless one of some tokens comes next; it is missing then. -/
def composeUnless
    (handles : TagHandles)
    (inBlock underKey : Bool)
    (ends : List TokenKind)
    (missingMark : Mark) :
    Nat → Remaining → Option (Tree × Remaining)
  | 0, _ =>
      none
  | fuel + 1, remaining =>
      if remaining.nextIs ends then
        some (.missing missingMark, remaining)
      else
        composeNode handles inBlock underKey fuel remaining

/-- Compose the items of an indented sequence. -/
def composeBlockItems
    (handles : TagHandles) :
    Nat → Remaining → Option (List Tree × Remaining)
  | 0, _ =>
      none
  | fuel + 1, remaining =>
      match remaining.next? with
      | some .blockEntry => do
          let (item, after) ←
            composeUnless handles true false [.blockEntry, .blockEnd] remaining.stop fuel
              remaining.advance
          let (items, last) ← composeBlockItems handles fuel after
          some (item :: items, last)
      | some .blockEnd =>
          some ([], remaining.advance)
      | _ =>
          none

/-- Compose the items of a sequence that is not indented. -/
def composeIndentless
    (handles : TagHandles) :
    Nat → Remaining → Option (List Tree × Remaining)
  | 0, _ =>
      none
  | fuel + 1, remaining =>
      match remaining.next? with
      | some .blockEntry => do
          let (item, after) ←
            composeUnless handles true false [.blockEntry, .key, .value, .blockEnd]
              remaining.stop fuel remaining.advance
          let (items, last) ← composeIndentless handles fuel after
          some (item :: items, last)
      | _ =>
          some ([], remaining)

/-- Compose the entries of an indented mapping. -/
def composeBlockEntries
    (handles : TagHandles) :
    Nat → Remaining → Option (List (Tree × Tree) × Remaining)
  | 0, _ =>
      none
  | fuel + 1, remaining =>
      match remaining.next? with
      | some .key => do
          let (key, afterKey) ←
            composeUnless handles true true [.key, .value, .blockEnd] remaining.stop fuel
              remaining.advance
          let (value, after) ← composeBlockValue handles fuel afterKey
          let (entries, last) ← composeBlockEntries handles fuel after
          some ((key, value) :: entries, last)
      | some .blockEnd =>
          some ([], remaining.advance)
      | _ =>
          none

/-- Compose the value of a key of an indented mapping. -/
def composeBlockValue
    (handles : TagHandles) :
    Nat → Remaining → Option (Tree × Remaining)
  | 0, _ =>
      none
  | fuel + 1, remaining =>
      if remaining.nextIs [.value] then
        composeUnless handles true true [.key, .value, .blockEnd] remaining.stop fuel
          remaining.advance
      else
        some (.missing remaining.mark, remaining)

/-- Compose the items of a sequence between brackets.  A key among the items starts
a mapping of a single entry. -/
def composeFlowItems
    (handles : TagHandles)
    (isFirst : Bool) :
    Nat → Remaining → Option (List Tree × Remaining)
  | 0, _ =>
      none
  | fuel + 1, remaining =>
      if remaining.nextIs [.flowSequenceEnd] then
        some ([], remaining.advance)
      else if !isFirst && !remaining.nextIs [.flowEntry] then
        none
      else
        let item := if isFirst then remaining else remaining.advance
        if item.nextIs [.flowSequenceEnd] then
          some ([], item.advance)
        else do
          let (tree, after) ←
            if item.nextIs [.key] then
              composeFlowPair handles fuel item
            else
              composeNode handles false false fuel item
          let (items, last) ← composeFlowItems handles false fuel after
          some (tree :: items, last)

/-- Compose the mapping of a single entry among the items of a sequence.  If the key
is missing, the token in its place is left out. -/
def composeFlowPair
    (handles : TagHandles) :
    Nat → Remaining → Option (Tree × Remaining)
  | 0, _ =>
      none
  | fuel + 1, remaining => do
      let start := remaining.advance
      let (key, afterKey) ←
        if start.nextIs [.value, .flowEntry, .flowSequenceEnd] then
          some (.missing start.stop, start.advance)
        else
          composeNode handles false false fuel start
      let (value, after) ←
        composeFlowValue handles [.flowEntry, .flowSequenceEnd] fuel afterKey
      some (.mapping ⟨remaining.mark, none, none⟩ [(key, value)], after)

/-- Compose the value of a key between brackets. -/
def composeFlowValue
    (handles : TagHandles)
    (ends : List TokenKind) :
    Nat → Remaining → Option (Tree × Remaining)
  | 0, _ =>
      none
  | fuel + 1, remaining =>
      if remaining.nextIs [.value] then
        composeUnless handles false false ends remaining.advance.mark fuel remaining.advance
      else
        some (.missing remaining.mark, remaining)

/-- Compose the entries of a mapping between brackets.  An entry without a mark for
its key has no value. -/
def composeFlowEntries
    (handles : TagHandles)
    (isFirst : Bool) :
    Nat → Remaining → Option (List (Tree × Tree) × Remaining)
  | 0, _ =>
      none
  | fuel + 1, remaining =>
      if remaining.nextIs [.flowMappingEnd] then
        some ([], remaining.advance)
      else if !isFirst && !remaining.nextIs [.flowEntry] then
        none
      else
        let item := if isFirst then remaining else remaining.advance
        if item.nextIs [.flowMappingEnd] then
          some ([], item.advance)
        else do
          let (entry, after) ← composeFlowEntry handles fuel item
          let (entries, last) ← composeFlowEntries handles false fuel after
          some (entry :: entries, last)

/-- Compose an entry of a mapping between brackets. -/
def composeFlowEntry
    (handles : TagHandles) :
    Nat → Remaining → Option ((Tree × Tree) × Remaining)
  | 0, _ =>
      none
  | fuel + 1, remaining =>
      if remaining.nextIs [.key] then do
        let (key, afterKey) ←
          composeUnless handles false false [.value, .flowEntry, .flowMappingEnd]
            remaining.advance.mark fuel remaining.advance
        let (value, after) ←
          composeFlowValue handles [.flowEntry, .flowMappingEnd] fuel afterKey
        some ((key, value), after)
      else do
        let (key, after) ← composeNode handles false false fuel remaining
        some ((key, .missing after.mark), after)

end

/-- The handles that are known without a directive. -/
def defaultHandles : TagHandles :=
  [("!", textBytes ['!']), ("!!", textBytes "tag:yaml.org,2002:".toList)]

/-- Read the directives in front of a document.  There is at most one version, which
is 1.1 or 1.2, and one meaning for each handle. -/
def readDirectives
    (versioned : Bool)
    (handles : TagHandles) :
    List Token → Option (TagHandles × List Token)
  | ⟨.version major minor, _, _⟩ :: rest =>
      if versioned || major != 1 || (minor != 1 && minor != 2) then
        none
      else
        readDirectives true handles rest
  | ⟨.tagHandle handle meaning, _, _⟩ :: rest =>
      if (handles.lookup handle).isSome then
        none
      else
        readDirectives versioned (handles ++ [(handle, meaning)]) rest
  | tokens =>
      some (handles ++ defaultHandles, tokens)

/-- Whether a token stands in front of the content of a document. -/
def opensDocument : TokenKind → Bool
  | .version _ _ =>
      true
  | .tagHandle _ _ =>
      true
  | .documentStart =>
      true
  | _ =>
      false

/-- Whether a token comes after the content of a document. -/
def closesDocument (kind : TokenKind) : Bool :=
  opensDocument kind || kind == .documentEnd || kind == .streamEnd

/-- Compose the content of a document after its boundary. -/
def composeContent
    (handles : TagHandles)
    (fuel : Nat)
    (remaining : Remaining) :
    Option (Tree × Remaining) :=
  if remaining.next?.any closesDocument then
    some (.missing remaining.mark, remaining)
  else
    composeNode handles true false fuel remaining

/-- Compose the first document. -/
def composeDocument
    (fuel : Nat)
    (remaining : Remaining) :
    Option (Tree × Remaining) :=
  if remaining.next?.any opensDocument then do
    let (handles, rest) ← readDirectives false [] remaining.tokens
    let boundary := { remaining with tokens := rest }
    if boundary.nextIs [.documentStart] then
      composeContent handles fuel boundary.advance
    else
      none
  else
    composeNode defaultHandles true false fuel remaining

/-- Compose the only document.  There may be none at all. -/
def composeOnly (tokens : List Token) : Option (Option Tree) :=
  let all : Remaining := ⟨tokens, []⟩
  if all.nextIs [.streamEnd] then
    some none
  else do
    let (tree, remaining) ← composeDocument (4 * tokens.length + 4) all
    let rest := remaining.tokens.dropWhile fun token => token.kind == .documentEnd
    if { remaining with tokens := rest }.nextIs [.streamEnd] then some (some tree) else none

/-- The tree of the document in a text.  There is no outer answer if the text is not
YAML or holds several documents, and no inner one if it holds none. -/
def parse? (text : String) : Option (Option Tree) :=
  (tokens? text.toList).bind composeOnly

end AlertReceivers.Yaml
