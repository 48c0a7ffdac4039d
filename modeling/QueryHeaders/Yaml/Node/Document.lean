import QueryHeaders.Yaml.Node.Basic

/-!
Documents: from tokens to trees of nodes.

A stream is a list of documents. The first may start without a marker; every other one needs one,
after any directives. Where a node is missing, an empty one stands.
-/
namespace QueryHeaders.Yaml

/-- The meanings of tag handles. -/
abbrev Handles := List (String × Tag)

def bytesOf (s : String) : Tag := s.toList.map (·.toNat.toUInt8)

def defaultHandles : Handles := [("!", bytesOf "!"), ("!!", bytesOf "tag:yaml.org,2002:")]

/-- The problem, unless the stream is already broken here. -/
def failAt {α : Type} (p : Problem) : List Token → Except Error α
  | .broken e :: _ => .error e
  | _ => .error ⟨p, none⟩

/-- The anchor and the tag before a node. -/
structure Properties where
  anchor : Option String := none
  tag : Option Tag := none

def resolveTag (handles : Handles) (handle : String) (suffix : List UInt8) : Except Error Tag :=
  if handle.isEmpty then .ok suffix
  else
    match handles.lookup handle with
    | some meaning => .ok (meaning ++ suffix)
    | none => .error ⟨.undefinedHandle, none⟩

/-- Reads an anchor and a tag, in any order. -/
def readProperties (handles : Handles) : List Token → Except Error (Properties × List Token)
  | .anchor a :: .tag h s :: rest | .tag h s :: .anchor a :: rest => do
      return (⟨some a, some (← resolveTag handles h s)⟩, rest)
  | .anchor a :: rest => .ok (⟨some a, none⟩, rest)
  | .tag h s :: rest => do return (⟨none, some (← resolveTag handles h s)⟩, rest)
  | rest => .ok ({}, rest)

/-- A scalar that is marked as having no particular tag is as one without a tag. -/
def scalarTag (tag : Option Tag) : Option Tag :=
  if tag = some (bytesOf "!") then none else tag

/-- Tokens before which an entry of a block sequence is empty. -/
def endsBlockEntry : List Token → Bool
  | .blockEntry :: _ | .blockEnd :: _ => true
  | _ => false

/-- Tokens before which a key or a value of a block mapping is empty. -/
def endsBlockPair : List Token → Bool
  | .key :: _ | .value :: _ | .blockEnd :: _ => true
  | _ => false

/-- Tokens before which a value of a flow collection with this end is empty. -/
def endsFlowValue (close : Token) : List Token → Bool
  | t :: _ => t == .flowEntry || t == close
  | [] => false

/-- Tokens before which a key of a flow collection with this end is empty. -/
def endsFlowKey (close : Token) : List Token → Bool
  | .value :: _ => true
  | ts => endsFlowValue close ts

/-- A node whose anchors and aliases are names. -/
abbrev NamedNode := Node String

/-- The collections of a document. A compact sequence is a block sequence without an indentation
of its own, as one may stand below a key; it has no end of its own either. -/
inductive Collection where
  | flowItems
  | flowPairs
  | blockItems
  | blockPairs
  | compactItems

/-- What stands after the properties of a node, with the tokens after it. -/
inductive Content where
  | scalar (text : String) (style : ScalarStyle) (rest : List Token)
  | collection (kind : Collection) (rest : List Token)
  | nothing

/-- `block` says whether block collections may start here, `compact` whether compact sequences
may. -/
def Content.of (block compact : Bool) : List Token → Content
  | .scalar text style :: rest => .scalar text style rest
  | .flowSequenceStart :: rest => .collection .flowItems rest
  | .flowMappingStart :: rest => .collection .flowPairs rest
  | .blockEntry :: rest =>
      if compact then .collection .compactItems (.blockEntry :: rest) else .nothing
  | .blockSequenceStart :: rest => if block then .collection .blockItems rest else .nothing
  | .blockMappingStart :: rest => if block then .collection .blockPairs rest else .nothing
  | _ => .nothing

/-- Skips the comma that has to stand between two entries of a flow collection. -/
def skipComma (first : Bool) (p : Problem) (ts : List Token) : Except Error (List Token) :=
  if first then .ok ts
  else
    match ts with
    | .flowEntry :: rest => .ok rest
    | ts => failAt p ts

mutual
/-- Reads a node; the fuel bounds the number of tokens left. -/
def readNode (handles : Handles) (fuel depth : Nat) (block compact : Bool) (ts : List Token) :
    Except Error (NamedNode × List Token) :=
  match fuel with
  | 0 => failAt .nestedTooDeeply ts
  | fuel + 1 =>
      match ts with
      | .alias name :: rest => .ok (.alias name, rest)
      | ts => do
          let (p, ts) ← readProperties handles ts
          match Content.of block compact ts with
          | .scalar text style rest =>
              return (.scalar p.anchor (scalarTag p.tag) text style, rest)
          | .nothing =>
              if p.anchor.isSome || p.tag.isSome then
                return (.scalar p.anchor p.tag "" .plain, ts)
              else failAt .expectedNode ts
          | .collection kind rest =>
              if depth = 0 then failAt .nestedTooDeeply ts
              else
                match kind with
                | .flowItems =>
                    let (items, rest) ← readFlowItems handles fuel (depth - 1) true rest
                    return (.sequence p.anchor p.tag items, rest)
                | .flowPairs =>
                    let (pairs, rest) ← readFlowPairs handles fuel (depth - 1) true rest
                    return (.mapping p.anchor p.tag pairs, rest)
                | .blockItems =>
                    let (items, rest) ← readBlockItems handles fuel (depth - 1) rest
                    return (.sequence p.anchor p.tag items, rest)
                | .blockPairs =>
                    let (pairs, rest) ← readBlockPairs handles fuel (depth - 1) rest
                    return (.mapping p.anchor p.tag pairs, rest)
                | .compactItems =>
                    let (items, rest) ← readCompactItems handles fuel (depth - 1) rest
                    return (.sequence p.anchor p.tag items, rest)
termination_by structural fuel

/-- The entries of a block sequence, up to its end. -/
def readBlockItems (handles : Handles) (fuel depth : Nat) (ts : List Token) :
    Except Error (List NamedNode × List Token) :=
  match fuel with
  | 0 => failAt .expectedEntry ts
  | fuel + 1 =>
      match ts with
      | .blockEntry :: rest => do
          let (item, rest) ← if endsBlockEntry rest then .ok (.empty, rest)
            else readNode handles fuel depth true false rest
          let (items, rest) ← readBlockItems handles fuel depth rest
          return (item :: items, rest)
      | .blockEnd :: rest => .ok ([], rest)
      | ts => failAt .expectedEntry ts
termination_by structural fuel

/-- The entries of a compact sequence. -/
def readCompactItems (handles : Handles) (fuel depth : Nat) (ts : List Token) :
    Except Error (List NamedNode × List Token) :=
  match fuel with
  | 0 => failAt .expectedEntry ts
  | fuel + 1 =>
      match ts with
      | .blockEntry :: rest => do
          let (item, rest) ← if endsBlockEntry rest || endsBlockPair rest then .ok (.empty, rest)
            else readNode handles fuel depth true false rest
          let (items, rest) ← readCompactItems handles fuel depth rest
          return (item :: items, rest)
      | ts => .ok ([], ts)
termination_by structural fuel

/-- The pairs of a block mapping, up to its end. -/
def readBlockPairs (handles : Handles) (fuel depth : Nat) (ts : List Token) :
    Except Error (List (NamedNode × NamedNode) × List Token) :=
  match fuel with
  | 0 => failAt .expectedKey ts
  | fuel + 1 =>
      match ts with
      | .key :: rest => do
          let (k, rest) ← if endsBlockPair rest then .ok (.empty, rest)
            else readNode handles fuel depth true true rest
          let (v, rest) ← readBlockValue handles fuel depth rest
          let (pairs, rest) ← readBlockPairs handles fuel depth rest
          return ((k, v) :: pairs, rest)
      | .blockEnd :: rest => .ok ([], rest)
      | ts => failAt .expectedKey ts
termination_by structural fuel

/-- The value after a key of a block mapping. -/
def readBlockValue (handles : Handles) (fuel depth : Nat) (ts : List Token) :
    Except Error (NamedNode × List Token) :=
  match fuel with
  | 0 => failAt .expectedKey ts
  | fuel + 1 =>
      match ts with
      | .value :: rest =>
          if endsBlockPair rest then .ok (.empty, rest)
          else readNode handles fuel depth true true rest
      | ts => .ok (.empty, ts)
termination_by structural fuel

/-- The value after a key of a flow collection with this end. -/
def readFlowValue (handles : Handles) (close : Token) (fuel depth : Nat) (ts : List Token) :
    Except Error (NamedNode × List Token) :=
  match fuel with
  | 0 => failAt .expectedKey ts
  | fuel + 1 =>
      match ts with
      | .value :: rest =>
          if endsFlowValue close rest then .ok (.empty, rest)
          else readNode handles fuel depth false false rest
      | ts => .ok (.empty, ts)
termination_by structural fuel

/-- The entries of a flow sequence, up to its end; each but the first follows a comma. An entry
with a key is a mapping of one pair; an empty key takes the token after it along. -/
def readFlowItems (handles : Handles) (fuel depth : Nat) (first : Bool) (ts : List Token) :
    Except Error (List NamedNode × List Token) :=
  match fuel with
  | 0 => failAt .expectedSequenceEnd ts
  | fuel + 1 =>
      match ts with
      | .flowSequenceEnd :: rest => .ok ([], rest)
      | ts => do
          let ts ← skipComma first .expectedSequenceEnd ts
          match ts with
          | .flowSequenceEnd :: rest => return ([], rest)
          | .key :: rest =>
              if depth = 0 then failAt .nestedTooDeeply ts
              else
                let (k, rest) ← if endsFlowKey .flowSequenceEnd rest then .ok (.empty, rest.drop 1)
                  else readNode handles fuel (depth - 1) false false rest
                let (v, rest) ← readFlowValue handles .flowSequenceEnd fuel (depth - 1) rest
                let (items, rest) ← readFlowItems handles fuel depth false rest
                return (.mapping none none [(k, v)] :: items, rest)
          | ts =>
              let (item, rest) ← readNode handles fuel depth false false ts
              let (items, rest) ← readFlowItems handles fuel depth false rest
              return (item :: items, rest)
termination_by structural fuel

/-- The pairs of a flow mapping, up to its end; an entry without a mark is a key alone. -/
def readFlowPairs (handles : Handles) (fuel depth : Nat) (first : Bool) (ts : List Token) :
    Except Error (List (NamedNode × NamedNode) × List Token) :=
  match fuel with
  | 0 => failAt .expectedMappingEnd ts
  | fuel + 1 =>
      match ts with
      | .flowMappingEnd :: rest => .ok ([], rest)
      | ts => do
          let ts ← skipComma first .expectedMappingEnd ts
          match ts with
          | .flowMappingEnd :: rest => return ([], rest)
          | .key :: rest =>
              let (k, rest) ← if endsFlowKey .flowMappingEnd rest then .ok (.empty, rest)
                else readNode handles fuel depth false false rest
              let (v, rest) ← readFlowValue handles .flowMappingEnd fuel depth rest
              let (pairs, rest) ← readFlowPairs handles fuel depth false rest
              return ((k, v) :: pairs, rest)
          | ts =>
              let (k, rest) ← readNode handles fuel depth false false ts
              let (pairs, rest) ← readFlowPairs handles fuel depth false rest
              return ((k, .empty) :: pairs, rest)
termination_by structural fuel
end

/-! ## Directives -/

structure Directives where
  version : Bool := false
  handles : Handles := []

def readDirectives (d : Directives) : List Token → Except Error (Directives × List Token)
  | .versionDirective major minor :: rest =>
      if d.version then failAt .repeatedDirective []
      else if major ≠ 1 ∨ (minor ≠ 1 ∧ minor ≠ 2) then failAt .incompatibleVersion []
      else readDirectives { d with version := true } rest
  | .tagDirective handle uri :: rest =>
      if (d.handles.lookup handle).isSome then failAt .repeatedDirective []
      else readDirectives { d with handles := (handle, uri) :: d.handles } rest
  | rest => .ok (d, rest)

/-- Tokens before which a document after its marker is empty. -/
def endsDocument : List Token → Bool
  | .versionDirective .. :: _ | .tagDirective .. :: _ | .documentStart :: _
  | .documentEnd :: _ | .streamEnd :: _ => true
  | _ => false

/-- Tokens that start a document with its marker, or no document. -/
def startsExplicitly : List Token → Bool
  | .versionDirective .. :: _ | .tagDirective .. :: _ | .documentStart :: _
  | .streamEnd :: _ => true
  | _ => false

def readRoot (handles : Handles) (ts : List Token) : Except Error (NamedNode × List Token) :=
  readNode (handles ++ defaultHandles) (4 * ts.length + 4) Node.maxDepth true false ts

/-- What has to follow a document: an end marker belongs to it. -/
def readDocumentEnd : List Token → Except Error (List Token)
  | .broken e :: _ => .error e
  | .documentEnd :: rest => .ok rest
  | rest => .ok rest

def skipEndMarkers : List Token → List Token
  | .documentEnd :: rest => skipEndMarkers rest
  | rest => rest

/-- The next document and the tokens after it; `none` at the end of the stream. -/
def readDocument (first : Bool) (ts : List Token) : Except Error (Option (NamedNode × List Token)) := do
  let ts := if first then ts else skipEndMarkers ts
  if first && !startsExplicitly ts then
    let (root, rest) ← readRoot [] ts
    return some (root, ← readDocumentEnd rest)
  else
    match ts with
    | .streamEnd :: _ => return none
    | ts =>
        let (d, ts) ← readDirectives {} ts
        match ts with
        | .documentStart :: rest =>
            let (root, rest) ← if endsDocument rest then .ok (.empty, rest)
              else readRoot d.handles rest
            return some (root, ← readDocumentEnd rest)
        | ts => failAt .expectedDocumentStart ts

end QueryHeaders.Yaml
