/-
The grammar of expressions, with its knot tied. Every rule reads its
parts through a `Grammar`; `read` hands a rule the same grammar with
one step less to go, so reading ends, and the count of steps is taken
from the tokens at hand and never runs out before they do.
-/
import RuledList.View.Expression.Statement

namespace RuledList.View.Expression

/-- The rule of each kind of phrase. -/
def rule (g : Grammar) : Grammar
  | .expr struct => exprRule g struct
  | .unary struct => unaryRule g struct
  | .operators struct strength => operatorsRule g struct strength
  | .rightSide struct strength => rightSideRule g struct strength
  | .climb struct strength => climbRule g struct strength
  | .operand struct => andThen (operandRule g struct) (g .trailers)
  | .trailers => trailersRule g
  | .early => earlyRule g
  | .conditional => conditionalRule g
  | .arms => armsRule g
  | .statements => statementsRule g
  | .pattern => patternRule g
  | .patterns => patternsRule g
  | .alternatives => alternativesRule g
  | .patternFields => patternFieldsRule g
  | .fields => fieldsRule g
  | .type plus => typeRule g plus
  | .path inExpr => pathRule g inExpr
  | .segments inExpr => segmentsRule g inExpr
  | .angles => anglesRule g
  | .bound => boundRule g
  | .bounds => boundsRule g
  | .parameters => parametersRule g
  | .functionTypes => functionTypesRule g
  | .attributes => attributesRule g
  | .innerAttributes => innerAttributesRule g
  | .useTree => useTreeRule g
  | .generics => genericsRule g
  | .predicates => predicatesRule g
  | .fieldOf named => fieldOfRule g named
  | .variant => variantRule g
  | .parameter => parameterRule g
  | .items => itemsRule g
  | .members => membersRule g
  | .commas item => commaRule g item

/-- Read a phrase in so many steps, one inside the other. -/
def read : (fuel : Nat) → Grammar
  | 0 => fun _ _ => none
  | fuel + 1 => rule (read fuel)

/-- An expression at the head of tokens: its own tokens as the grammar
spaces them, and whether nothing was left over, here or in a group
inside. -/
def take? (ts : List Token) : Option (List Token × Bool) :=
  let fuel := 32 * (Token.sizeAll ts + 1)
  (read fuel (.expr true) ⟨[], ts, true, .other⟩).map fun c =>
    (c.seen.reverse, c.whole && c.rest.isEmpty)

end RuledList.View.Expression
