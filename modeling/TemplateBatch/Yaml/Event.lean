import TemplateBatch.Yaml.Token

/-!
The events of a YAML document: its scalars and the bounds of its collections in the order they
are written, with an empty scalar wherever a node is left out. A list of what is still expected
takes the place of the nesting, so that a text may be nested to any depth.
-/
namespace TemplateBatch.Yaml

inductive Event where
  | scalar (text : String) (plain : Bool)
  | sequenceStart
  | sequenceEnd
  | mappingStart
  | mappingEnd
  deriving Repr, DecidableEq

/-- What may come next. A compact node is one in whose place a sequence may stand at the column
of the mapping around it. -/
inductive Expected where
  | node (inBlock compact : Bool)
  | items
  | compactItems
  | entry
  | entryValue
  | flowItems (first : Bool)
  | pairKey
  | pairValue
  | pairEnd
  | flowEntries (first : Bool)
  | flowEntryValue
  | absentValue

namespace Event

/-- What stands where nothing was written. -/
def empty : Event := .scalar "" true

/-- The events of one step, what is expected then, and the tokens that follow. -/
structure Step where
  events : List Event
  expected : List Expected
  rest : List Token

/-- A node before which something else is expected than one of the tokens that leave it out. -/
def nodeUnless (leftOut : List Token) (node next : Expected) (ts : List Token) : Step :=
  if ts.head?.any leftOut.contains then ⟨[empty], [next], ts⟩ else ⟨[], [node, next], ts⟩

def stepNode (inBlock compact : Bool) : List Token → Option Step
  | .scalar text plain :: ts => some ⟨[.scalar text plain], [], ts⟩
  | .flowSequenceStart :: ts => some ⟨[.sequenceStart], [.flowItems true], ts⟩
  | .flowMappingStart :: ts => some ⟨[.mappingStart], [.flowEntries true], ts⟩
  | .blockEntry :: ts =>
    if compact then some ⟨[.sequenceStart], [.compactItems], .blockEntry :: ts⟩ else none
  | .sequenceStart :: ts => if inBlock then some ⟨[.sequenceStart], [.items], ts⟩ else none
  | .mappingStart :: ts => if inBlock then some ⟨[.mappingStart], [.entry], ts⟩ else none
  | _ => none

def stepFlowItem : List Token → Step
  | .key :: ts => ⟨[.mappingStart], [.pairKey, .flowItems false], ts⟩
  | .flowSequenceEnd :: ts => ⟨[.sequenceEnd], [], ts⟩
  | ts => ⟨[], [.node false false, .flowItems false], ts⟩

def stepFlowEntry : List Token → Step
  | .key :: ts =>
    nodeUnless [.value, .flowEntry, .flowMappingEnd] (.node false false) .flowEntryValue ts
  | .flowMappingEnd :: ts => ⟨[.mappingEnd], [], ts⟩
  | ts => ⟨[], [.node false false, .absentValue], ts⟩

def step (e : Expected) (ts : List Token) : Option Step :=
  match e with
  | .node inBlock compact => stepNode inBlock compact ts
  | .items =>
    match ts with
    | .blockEntry :: ts => some (nodeUnless [.blockEntry, .blockEnd] (.node true false) .items ts)
    | .blockEnd :: ts => some ⟨[.sequenceEnd], [], ts⟩
    | _ => none
  | .compactItems =>
    match ts with
    | .blockEntry :: ts =>
      some (nodeUnless [.blockEntry, .key, .value, .blockEnd] (.node true false) .compactItems ts)
    | ts => some ⟨[.sequenceEnd], [], ts⟩
  | .entry =>
    match ts with
    | .key :: ts => some (nodeUnless [.key, .value, .blockEnd] (.node true true) .entryValue ts)
    | .blockEnd :: ts => some ⟨[.mappingEnd], [], ts⟩
    | _ => none
  | .entryValue =>
    match ts with
    | .value :: ts => some (nodeUnless [.key, .value, .blockEnd] (.node true true) .entry ts)
    | ts => some ⟨[empty], [.entry], ts⟩
  | .flowItems first =>
    match first, ts with
    | true, ts => some (stepFlowItem ts)
    | false, .flowEntry :: ts => some (stepFlowItem ts)
    | false, .flowSequenceEnd :: ts => some ⟨[.sequenceEnd], [], ts⟩
    | false, _ => none
  | .pairKey =>
    if ts.head?.any [Token.value, .flowEntry, .flowSequenceEnd].contains then
      some ⟨[empty], [.pairValue], ts.tail⟩
    else some ⟨[], [.node false false, .pairValue], ts⟩
  | .pairValue =>
    match ts with
    | .value :: ts =>
      some (nodeUnless [.flowEntry, .flowSequenceEnd] (.node false false) .pairEnd ts)
    | ts => some ⟨[empty], [.pairEnd], ts⟩
  | .pairEnd => some ⟨[.mappingEnd], [], ts⟩
  | .flowEntries first =>
    match first, ts with
    | true, ts => some (stepFlowEntry ts)
    | false, .flowEntry :: ts => some (stepFlowEntry ts)
    | false, .flowMappingEnd :: ts => some ⟨[.mappingEnd], [], ts⟩
    | false, _ => none
  | .flowEntryValue =>
    match ts with
    | .value :: ts =>
      some (nodeUnless [.flowEntry, .flowMappingEnd] (.node false false) (.flowEntries false) ts)
    | ts => some ⟨[empty], [.flowEntries false], ts⟩
  | .absentValue => some ⟨[empty], [.flowEntries false], ts⟩

/-- Steps until nothing more is expected; `before` holds the events so far, the last one first. -/
def run : (fuel : Nat) → (before : List Event) → List Expected → List Token →
    Option (List Event × List Token)
  | 0, _, _, _ => none
  | _ + 1, before, [], ts => some (before.reverse, ts)
  | fuel + 1, before, e :: expected, ts =>
    match step e ts with
    | none => none
    | some s => run fuel (s.events.reverse ++ before) (s.expected ++ expected) s.rest

/-- The events of the single document of a text. A text without content has an empty node; behind
the document only the markers that end one may follow. -/
def ofTokens? (ts : List Token) : Option (List Event) :=
  let node ts := run (5 * ts.length + 5) [] [.node true false] ts
  let document? :=
    match ts with
    | [] => some ([empty], [])
    | .documentStart :: ts =>
      match ts with
      | [] | .documentStart :: _ | .documentEnd :: _ => some ([empty], ts)
      | _ => node ts
    | ts => node ts
  document?.bind fun (events, rest) => if rest.all (· == .documentEnd) then some events else none

end Event
end TemplateBatch.Yaml
