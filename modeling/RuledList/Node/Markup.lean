/-
Trees as indented pseudo-markup, for reading and for comparing. Each
element, invocation and text is a line, two spaces deeper than its
parent; one without children closes itself; a fragment shows its
children at its own depth. A string attribute stands between plain
quotes, any other value as its JSON text. Nothing is escaped: a text
that holds a line break runs over several lines.
-/
import RuledList.Node.Basic

namespace RuledList

/-- The text of one attribute, with the space before it. -/
def attrText (name : String) (value : Value) : String :=
  " " ++ name ++ "=" ++
    match value with
    | .string s => "\"" ++ s ++ "\""
    | v => v.text

/-- The text of an attribute map, in its order. -/
def Props.attrsText (attrs : Props) : String :=
  String.join (attrs.entries.map fun e => attrText e.1 e.2)

namespace Node

/-- The indentation of a depth. -/
def indent (depth : Nat) : String :=
  String.ofList (List.replicate (2 * depth) ' ')

mutual

/-- The lines of a tree at a depth. -/
def lines : Node → Nat → List String
  | .text t, depth => [indent depth ++ t]
  | .fragment cs, depth => linesAll cs depth
  | .element tag attrs cs, depth =>
    match cs with
    | [] => [indent depth ++ "<" ++ tag ++ attrs.attrsText ++ " />"]
    | _ :: _ =>
      [indent depth ++ "<" ++ tag ++ attrs.attrsText ++ ">"] ++
        linesAll cs (depth + 1) ++
        [indent depth ++ "</" ++ tag ++ ">"]
  | .component ref props cs, depth =>
    match cs with
    | [] => [indent depth ++ "<" ++ ref.name ++ props.attrsText ++ " />"]
    | _ :: _ =>
      [indent depth ++ "<" ++ ref.name ++ props.attrsText ++ ">"] ++
        linesAll cs (depth + 1) ++
        [indent depth ++ "</" ++ ref.name ++ ">"]
termination_by structural n => n

/-- The lines of sibling trees at one depth. -/
def linesAll : List Node → Nat → List String
  | [], _ => []
  | n :: rest, depth => lines n depth ++ linesAll rest depth
termination_by structural ns => ns

end

/-- The markup of a tree: its lines, without a line break at the
end. -/
def markup (n : Node) : String := "\n".intercalate (lines n 0)

end Node

end RuledList
