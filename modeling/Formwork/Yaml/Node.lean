import Formwork.Dict
import Formwork.Yaml.Lexeme

/-! # Nodes

A document is a tree of nodes: scalars, sequences and mappings, each with a tag
perhaps. `Node.ofText?` reads a text that holds one document; in its result every
alias has been replaced by the node it stands for. Nesting is limited, and so is
the number of replacements.
-/

namespace Formwork.Yaml

/-- What stands in front of a node: the number of its anchor, and its tag. -/
structure Label where
  anchor : Option Nat := none
  tag : Option String := none
deriving DecidableEq

/-- Neither an anchor nor a tag. -/
def Label.isEmpty (l : Label) : Bool := l.anchor.isNone && l.tag.isNone

/-- A node of a document. -/
inductive Node where
  | alias (number : Nat)
  | scalar (label : Label) (scalar : Scalar)
  | sequence (label : Label) (items : List Node)
  | mapping (label : Label) (pairs : List (Node × Node))

/-- The node that stands where nothing is written. -/
def Node.absent : Node := .scalar {} .absent

instance : Inhabited Node := ⟨.absent⟩

/-! ## From lexemes to nodes -/

/-- What has been read of a document: the lexemes that are left, the numbers of
the anchors by name, and the heads of tags by handle. -/
structure Outline where
  lexemes : List Lexeme
  anchors : Dict Nat := ∅
  handles : Dict String := ∅

/-- A reader of lexemes. -/
abbrev Outlining := StateT Outline Option

namespace Outlining

/-- The next lexeme. -/
def peek : Outlining Lexeme := do return (← get).lexemes.headD .textEnd

/-- Passes the next lexeme. -/
def pass : Outlining Unit := modify fun o => { o with lexemes := o.lexemes.drop 1 }

/-- The next lexeme is one of these. -/
def at? (ls : List Lexeme) : Outlining Bool := do return ls.contains (← peek)

/-- Passes the next lexeme, which has to be `l`. -/
def expect (l : Lexeme) : Outlining Unit := do
  if ← at? [l] then pass else failure

/-- Sets an anchor. Its number is the number of names known so far. -/
def setAnchor (name : String) : Outlining Nat := do
  let number := (← get).anchors.size
  modify fun o => { o with anchors := o.anchors.insert name number }
  return number

/-- The handles that every document knows. -/
def commonHead? (handle : String) : Option String :=
  if handle = "!" then some "!"
  else if handle = "!!" then some "tag:yaml.org,2002:"
  else none

/-- A tag in full. -/
def fullTag (handle suffix : String) : Outlining String := do
  if handle.isEmpty then return suffix
  match ((← get).handles.get? handle).or (commonHead? handle) with
  | some head => return head ++ suffix
  | none => failure

/-- Reads an anchor, if one is next. -/
def anchor : Outlining (Option Nat) := do
  match ← peek with
  | .anchor name =>
    pass
    return some (← setAnchor name)
  | _ => return none

/-- Reads a tag, if one is next. -/
def tag : Outlining (Option String) := do
  match ← peek with
  | .tag handle suffix =>
    pass
    return some (← fullTag handle suffix)
  | _ => return none

/-- Reads an anchor and a tag in either order. -/
def label : Outlining Label := do
  match ← anchor with
  | some number => return ⟨some number, ← tag⟩
  | none =>
    let tag ← tag
    return ⟨← anchor, tag⟩

mutual

/-- Reads a node. Block collections are open to a node in a block only; a value of
a block mapping may be a sequence whose entries are not indented. -/
def node (inBlock inMapping : Bool) : Nat → Outlining Node
  | 0 => failure
  | fuel + 1 => do
    match ← peek with
    | .alias name =>
      pass
      match (← get).anchors.get? name with
      | some number => return .alias number
      | none => failure
    | _ =>
      let label ← label
      let next ← peek
      if next = .entry && inMapping then return .sequence label (← looseItems fuel)
      else match next with
        | .scalar s =>
          pass
          return .scalar label s
        | .flowSequence =>
          pass
          return .sequence label (← flowItems true fuel)
        | .flowMapping =>
          pass
          return .mapping label (← flowPairs true fuel)
        | _ =>
          if next = .blockSequence && inBlock then
            pass
            return .sequence label (← blockItems fuel)
          else if next = .blockMapping && inBlock then
            pass
            return .mapping label (← blockPairs fuel)
          else if label.isEmpty then failure
          else return .scalar label .absent

/-- Reads a node, unless one of `ends` is next and nothing is written. -/
def nodeUnless (ends : List Lexeme) (inBlock inMapping : Bool) : Nat → Outlining Node
  | 0 => failure
  | fuel + 1 => do
    if ← at? ends then return .absent else node inBlock inMapping fuel

/-- Reads the value of a pair, if a colon is next. -/
def valueUnless (ends : List Lexeme) (inBlock : Bool) : Nat → Outlining Node
  | 0 => failure
  | fuel + 1 => do
    if ← at? [.value] then
      pass
      nodeUnless ends inBlock inBlock fuel
    else return .absent

/-- Reads the entries of a block sequence. -/
def blockItems : Nat → Outlining (List Node)
  | 0 => failure
  | fuel + 1 => do
    if ← at? [.blockEnd] then
      pass
      return []
    expect .entry
    let item ← nodeUnless [.entry, .blockEnd] true false fuel
    return item :: (← blockItems fuel)

/-- Reads the entries of a sequence that is not indented. -/
def looseItems : Nat → Outlining (List Node)
  | 0 => failure
  | fuel + 1 => do
    if ← at? [.entry] then
      pass
      let item ← nodeUnless [.entry, .key, .value, .blockEnd] true false fuel
      return item :: (← looseItems fuel)
    else return []

/-- Reads the pairs of a block mapping. -/
def blockPairs : Nat → Outlining (List (Node × Node))
  | 0 => failure
  | fuel + 1 => do
    if ← at? [.blockEnd] then
      pass
      return []
    expect .key
    let ends := [.key, .value, .blockEnd]
    let key ← nodeUnless ends true true fuel
    let value ← valueUnless ends true fuel
    return (key, value) :: (← blockPairs fuel)

/-- Reads the items of a flow sequence. An item may be a single pair. -/
def flowItems (isFirst : Bool) : Nat → Outlining (List Node)
  | 0 => failure
  | fuel + 1 => do
    if ← at? [.flowSequenceEnd] then
      pass
      return []
    if !isFirst then expect .comma
    match ← peek with
    | .flowSequenceEnd =>
      pass
      return []
    | .key =>
      pass
      let pair ← flowPair fuel
      return .mapping {} [pair] :: (← flowItems false fuel)
    | _ =>
      let item ← node false false fuel
      return item :: (← flowItems false fuel)

/-- Reads the single pair that is an item of a flow sequence. Where its key is not
written the next lexeme is lost. -/
def flowPair : Nat → Outlining (Node × Node)
  | 0 => failure
  | fuel + 1 => do
    if ← at? [.value, .comma, .flowSequenceEnd] then
      pass
      return (.absent, ← valueUnless [.comma, .flowSequenceEnd] false fuel)
    else
      let key ← node false false fuel
      return (key, ← valueUnless [.comma, .flowSequenceEnd] false fuel)

/-- Reads the pairs of a flow mapping. A pair may be a key alone. -/
def flowPairs (isFirst : Bool) : Nat → Outlining (List (Node × Node))
  | 0 => failure
  | fuel + 1 => do
    if ← at? [.flowMappingEnd] then
      pass
      return []
    if !isFirst then expect .comma
    match ← peek with
    | .flowMappingEnd =>
      pass
      return []
    | .key =>
      pass
      let key ← nodeUnless [.value, .comma, .flowMappingEnd] false false fuel
      let value ← valueUnless [.comma, .flowMappingEnd] false fuel
      return (key, value) :: (← flowPairs false fuel)
    | _ =>
      let key ← node false false fuel
      return (key, .absent) :: (← flowPairs false fuel)

end

/-- Reads directives: one version, which is 1.1 or 1.2, and handles of tags, each
once. -/
def directives (versionSeen : Bool) : Nat → Outlining Unit
  | 0 => failure
  | fuel + 1 => do
    match ← peek with
    | .version major minor =>
      if versionSeen || major ≠ 1 || (minor ≠ 1 && minor ≠ 2) then failure
      pass
      directives true fuel
    | .shorthand handle head =>
      if (← get).handles.contains handle then failure
      modify fun o => { o with handles := o.handles.insert handle head }
      pass
      directives versionSeen fuel
    | _ => return ()

/-- The lexeme belongs to the frame of a document. -/
def isFrame : Lexeme → Bool
  | .version .. => true
  | .shorthand .. => true
  | .documentStart => true
  | .documentEnd => true
  | .textEnd => true
  | _ => false

/-- Reads the only document of a text. -/
def document (fuel : Nat) : Outlining Node := do
  let first ← peek
  if first = .textEnd then return .absent
  let explicit := isFrame first && first ≠ .documentEnd
  if explicit then
    directives false fuel
    expect .documentStart
  let root ← if explicit && isFrame (← peek) then pure .absent else node true false fuel
  if (← get).lexemes.all fun l => l = .documentEnd || l = .textEnd then return root else failure

end Outlining

/-! ## Aliases -/

namespace Node

mutual

/-- The anchored nodes by number, in the order in which they begin. -/
def anchored : Node → List (Nat × Node)
  | .alias _ => []
  | .scalar label s => (label.anchor.map (·, .scalar label s)).toList
  | .sequence label items =>
    (label.anchor.map (·, .sequence label items)).toList ++ anchoredItems items
  | .mapping label pairs =>
    (label.anchor.map (·, .mapping label pairs)).toList ++ anchoredPairs pairs

/-- The anchored nodes within items. -/
def anchoredItems : List Node → List (Nat × Node)
  | [] => []
  | item :: items => anchored item ++ anchoredItems items

/-- The anchored nodes within pairs. -/
def anchoredPairs : List (Node × Node) → List (Nat × Node)
  | [] => []
  | (key, value) :: pairs => anchored key ++ anchored value ++ anchoredPairs pairs

end

mutual

/-- The number of marks that write the node: one for a scalar or an alias, two
around the marks of a collection. -/
def weight : Node → Nat
  | .alias _ => 1
  | .scalar _ _ => 1
  | .sequence _ items => 2 + weightItems items
  | .mapping _ pairs => 2 + weightPairs pairs

/-- The number of marks that write the items. -/
def weightItems : List Node → Nat
  | [] => 0
  | item :: items => weight item + weightItems items

/-- The number of marks that write the pairs. -/
def weightPairs : List (Node × Node) → Nat
  | [] => 0
  | (key, value) :: pairs => weight key + weight value + weightPairs pairs

end

/-- Collections may nest this deep. -/
def nestingLimit : Nat := 128

/-- Every mark of a document allows this many replacements. -/
def replacementsPerMark : Nat := 100

/-- Replaces aliases by the nodes that they stand for, the last that were given
their number. The state counts the replacements that are left. -/
def replaceAliases (targets : List (Nat × Node)) : Nat → Node → StateT Nat Option Node
  | depth, n => do
    let target ← match n with
      | .alias number =>
        match ← get with
        | 0 => failure
        | left + 1 =>
          set left
          match targets.reverse.lookup number with
          | some target => pure target
          | none => failure
      | other => pure other
    match depth, target with
    | _, .scalar label s => return .scalar label s
    | depth + 1, .sequence label items =>
      return .sequence label (← items.mapM (replaceAliases targets depth))
    | depth + 1, .mapping label pairs =>
      return .mapping label (← pairs.mapM fun pair => do
        return (← replaceAliases targets depth pair.1, ← replaceAliases targets depth pair.2))
    | _, _ => failure

/-- Reads the only document of a text. -/
def ofText? (s : String) : Option Node := do
  let lexemes ← Lexeme.ofText? s
  let (root, _) ← (Outlining.document (4 * lexemes.length + 4)).run ⟨lexemes, ∅, ∅⟩
  let (node, _) ← (replaceAliases root.anchored nestingLimit root).run
    (root.weight * replacementsPerMark)
  return node

/-- The pairs of a mapping, whatever its tag. Where nothing is written there are
none. -/
def pairs? : Node → Option (List (Node × Node))
  | .mapping _ pairs => some pairs
  | .scalar _ s => if s = .absent then some [] else none
  | _ => none

/-- The content of a scalar as written, whatever its tag. -/
def content? : Node → Option String
  | .scalar _ s => some s.content
  | _ => none

end Node

end Formwork.Yaml
