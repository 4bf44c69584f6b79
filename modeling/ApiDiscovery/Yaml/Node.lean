import ApiDiscovery.Yaml.Token

/-!
# Nodes of a YAML text

The document that a list of tokens spells.  An alias of a scalar stands for that
scalar; an alias of a collection is kept as one, since a collection may contain
itself.  A stream holds at most one document.
-/

namespace ApiDiscovery.Yaml

structure Scalar where
  plain : Bool
  tag : Option (List Char)
  content : List Char
deriving DecidableEq, Repr

def Scalar.empty : Scalar := ⟨true, none, []⟩

inductive Node where
  | scalar (scalar : Scalar)
  | sequence (items : List Node)
  | mapping (pairs : List (Node × Node))
  | repetition (anchor : List Char)

instance : Inhabited Node := ⟨.scalar .empty⟩

namespace Node

def nothing : Node := .scalar .empty

/-- What an anchor names, as far as aliases need it: a scalar, or some collection. -/
abbrev Anchors := List (List Char × Option Scalar)

abbrev Handles := List (List Char × List Char)

def defaultHandles : Handles :=
  [(['!'], ['!']), (['!', '!'], "tag:yaml.org,2002:".toList)]

/-- The properties in front of a node: at most one anchor and one tag, in either order. -/
structure Properties where
  anchor : Option (List Char) := none
  tag : Option (List Char) := none

def resolveTag (handles : Handles) (handle rest : List Char) : Option (List Char) :=
  if handle.isEmpty then some rest
  else (handles.find? (·.1 == handle)).map fun (_, lead) => lead ++ rest

def properties (handles : Handles) (tokens : List Token) : Option (Properties × List Token) :=
  match tokens with
  | .anchor name :: .tag handle rest :: more =>
      (resolveTag handles handle rest).map fun tag => (⟨some name, some tag⟩, more)
  | .tag handle rest :: .anchor name :: more =>
      (resolveTag handles handle rest).map fun tag => (⟨some name, some tag⟩, more)
  | .anchor name :: more => some (⟨some name, none⟩, more)
  | .tag handle rest :: more =>
      (resolveTag handles handle rest).map fun tag => (⟨none, some tag⟩, more)
  | _ => some ({}, tokens)

def note (properties : Properties) (target : Option Scalar) (anchors : Anchors) : Anchors :=
  match properties.anchor with
  | none => anchors
  | some name => (name, target) :: anchors

def aliased (name : List Char) (anchors : Anchors) : Option Node :=
  (anchors.find? (·.1 == name)).map fun (_, target) =>
    match target with
    | some written => .scalar written
    | none => .repetition name

/-- The value of a block pair ends here without having begun. -/
def endsBlockValue : List Token → Bool
  | .key :: _ => true
  | .value :: _ => true
  | .blockEnd :: _ => true
  | _ => false

mutual

/--
The node ahead.  Block collections may start only where `block` is set, and a
sequence without indentation of its own only where `indentless` is.
-/
def node (handles : Handles) (block indentless : Bool) :
    Nat → Anchors → List Token → Option (Node × Anchors × List Token)
  | 0, _, _ => none
  | bound + 1, anchors, tokens =>
      match tokens with
      | .alias name :: rest => (aliased name anchors).map (·, anchors, rest)
      | _ => do
          let (properties, behind) ← properties handles tokens
          let collection := note properties none anchors
          match behind with
          | .scalar plain content :: rest =>
              let written : Scalar := ⟨plain, properties.tag, content⟩
              some (.scalar written, note properties (some written) anchors, rest)
          | .flowSequenceStart :: rest =>
              (flowSequence handles true bound collection rest).map fun (items, after) =>
                (.sequence items, after)
          | .flowMappingStart :: rest =>
              (flowMapping handles true bound collection rest).map fun (pairs, after) =>
                (.mapping pairs, after)
          | .blockEntry :: _ =>
              if indentless then
                (blockSequence handles true bound collection behind).map fun (items, after) =>
                  (.sequence items, after)
              else nodeWithout properties anchors behind
          | .blockSequenceStart :: rest =>
              if block then
                (blockSequence handles false bound collection rest).map fun (items, after) =>
                  (.sequence items, after)
              else nodeWithout properties anchors behind
          | .blockMappingStart :: rest =>
              if block then
                (blockMapping handles bound collection rest).map fun (pairs, after) =>
                  (.mapping pairs, after)
              else nodeWithout properties anchors behind
          | _ => nodeWithout properties anchors behind

/-- A node of which only properties are written. -/
def nodeWithout (properties : Properties) (anchors : Anchors) (tokens : List Token) : Option (Node × Anchors × List Token) :=
  if properties.anchor.isSome || properties.tag.isSome then
    let written : Scalar := { Scalar.empty with tag := properties.tag }
    some (.scalar written, note properties (some written) anchors, tokens)
  else none

/-- The entries of a block sequence and its end, which is not written if it has no indentation. -/
def blockSequence (handles : Handles) (indentless : Bool) :
    Nat → Anchors → List Token → Option (List Node × Anchors × List Token)
  | 0, _, _ => none
  | bound + 1, anchors, tokens =>
      match tokens with
      | .blockEntry :: rest => do
          let ends :=
            match rest with
            | .blockEntry :: _ => true
            | .blockEnd :: _ => true
            | .key :: _ => indentless
            | .value :: _ => indentless
            | _ => false
          let (item, known, behind) ←
            if ends then some (nothing, anchors, rest)
            else node handles true false bound anchors rest
          let (items, after) ← blockSequence handles indentless bound known behind
          some (item :: items, after)
      | .blockEnd :: rest => if indentless then some ([], anchors, tokens) else some ([], anchors, rest)
      | _ => if indentless then some ([], anchors, tokens) else none

def blockMapping (handles : Handles) :
    Nat → Anchors → List Token → Option (List (Node × Node) × Anchors × List Token)
  | 0, _, _ => none
  | bound + 1, anchors, tokens =>
      match tokens with
      | .key :: rest => do
          let (key, known, behindKey) ←
            if endsBlockValue rest then some (nothing, anchors, rest)
            else node handles true true bound anchors rest
          let (value, known, behind) ←
            match behindKey with
            | .value :: rest =>
                if endsBlockValue rest then some (nothing, known, rest)
                else node handles true true bound known rest
            | _ => some (nothing, known, behindKey)
          let (pairs, after) ← blockMapping handles bound known behind
          some ((key, value) :: pairs, after)
      | .blockEnd :: rest => some ([], anchors, rest)
      | _ => none

def flowSequence (handles : Handles) (first : Bool) :
    Nat → Anchors → List Token → Option (List Node × Anchors × List Token)
  | 0, _, _ => none
  | bound + 1, anchors, tokens =>
      match tokens with
      | .flowSequenceEnd :: rest => some ([], anchors, rest)
      | _ => do
          let entry ←
            if first then some tokens
            else
              match tokens with
              | .flowEntry :: rest => some rest
              | _ => none
          match entry with
          | .flowSequenceEnd :: rest => some ([], anchors, rest)
          | .key :: rest =>
              let (pair, known, behind) ← singlePair handles bound anchors rest
              let (items, after) ← flowSequence handles false bound known behind
              some (.mapping [pair] :: items, after)
          | _ =>
              let (item, known, behind) ← node handles false false bound anchors entry
              let (items, after) ← flowSequence handles false bound known behind
              some (item :: items, after)

/-- A pair that is an entry of a flow sequence, behind the token that announces its key. -/
def singlePair (handles : Handles) : Nat → Anchors → List Token → Option ((Node × Node) × Anchors × List Token)
  | 0, _, _ => none
  | bound + 1, anchors, tokens => do
      let (key, known, behindKey) ←
        match tokens with
        | .value :: rest => some (nothing, anchors, rest)
        | .flowEntry :: rest => some (nothing, anchors, rest)
        | .flowSequenceEnd :: rest => some (nothing, anchors, rest)
        | _ => node handles false false bound anchors tokens
      let (value, known, behind) ←
        match behindKey with
        | .value :: rest =>
            match rest with
            | .flowEntry :: _ => some (nothing, known, rest)
            | .flowSequenceEnd :: _ => some (nothing, known, rest)
            | _ => node handles false false bound known rest
        | _ => some (nothing, known, behindKey)
      some ((key, value), known, behind)

def flowMapping (handles : Handles) (first : Bool) :
    Nat → Anchors → List Token → Option (List (Node × Node) × Anchors × List Token)
  | 0, _, _ => none
  | bound + 1, anchors, tokens =>
      match tokens with
      | .flowMappingEnd :: rest => some ([], anchors, rest)
      | _ => do
          let entry ←
            if first then some tokens
            else
              match tokens with
              | .flowEntry :: rest => some rest
              | _ => none
          match entry with
          | .flowMappingEnd :: rest => some ([], anchors, rest)
          | .key :: rest =>
              let (key, known, behindKey) ←
                match rest with
                | .value :: _ => some (nothing, anchors, rest)
                | .flowEntry :: _ => some (nothing, anchors, rest)
                | .flowMappingEnd :: _ => some (nothing, anchors, rest)
                | _ => node handles false false bound anchors rest
              let (value, known, behind) ←
                match behindKey with
                | .value :: rest =>
                    match rest with
                    | .flowEntry :: _ => some (nothing, known, rest)
                    | .flowMappingEnd :: _ => some (nothing, known, rest)
                    | _ => node handles false false bound known rest
                | _ => some (nothing, known, behindKey)
              let (pairs, after) ← flowMapping handles false bound known behind
              some ((key, value) :: pairs, after)
          | _ =>
              let (key, known, behind) ← node handles false false bound anchors entry
              let (pairs, after) ← flowMapping handles false bound known behind
              some ((key, nothing) :: pairs, after)

end

/-! ## Documents -/

def directives (version : Bool) (handles : Handles) : List Token → Option (Handles × List Token)
  | .versionDirective major minor :: rest =>
      if version || major != 1 || (minor != 1 && minor != 2) then none
      else directives true handles rest
  | .tagDirective handle lead :: rest =>
      if handles.any (·.1 == handle) then none
      else directives version (handles ++ [(handle, lead)]) rest
  | tokens => some (handles, tokens)

def skipEnds : List Token → List Token
  | .documentEnd :: rest => skipEnds rest
  | tokens => tokens

def implicitDocument (tokens : List Token) : Option (Node × List Token) :=
  (node defaultHandles true false (3 * tokens.length + 3) [] tokens).map
    fun (root, _, behind) => (root, behind)

def documentContent (handles : Handles) (tokens : List Token) : Option (Node × List Token) :=
  match tokens with
  | [] => some (nothing, [])
  | .versionDirective _ _ :: _ => some (nothing, tokens)
  | .tagDirective _ _ :: _ => some (nothing, tokens)
  | .documentStart :: _ => some (nothing, tokens)
  | .documentEnd :: _ => some (nothing, tokens)
  | _ =>
      (node (handles ++ defaultHandles) true false (3 * tokens.length + 3) [] tokens).map
        fun (root, _, behind) => (root, behind)

/-- The document of a stream of tokens, `none` inside if the stream holds none. -/
def ofTokens? (tokens : List Token) : Option (Option Node) := do
  if tokens.isEmpty then some none
  else
    let (handles, behind) ← directives false [] tokens
    let (root, rest) ←
      match behind with
      | .documentStart :: content => documentContent handles content
      | _ => if behind.length = tokens.length then implicitDocument tokens else none
    if (skipEnds rest).isEmpty then some (some root) else none

def parse? (text : List Char) : Option (Option Node) :=
  (tokens? text).bind ofTokens?

end Node

end ApiDiscovery.Yaml
