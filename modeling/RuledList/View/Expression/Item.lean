/-
Items: the declarations that may stand among the statements of a block,
in a module, in a trait or in its implementation.
-/
import RuledList.View.Expression.Declaration

namespace RuledList.View.Expression

-- =============================================================== imports

/-- What a `use` brings in: a name, perhaps under another name,
everything, or several such things in braces. -/
def useTreeRule (g : Grammar) : Step := fun c =>
  if atGroup .brace c.rest then group .brace (g (.commas .useTree)) c
  else if atOp "*" c.rest then op "*" c
  else if atName c.rest || atPathWord c.rest && !atWord "Self" c.rest then
    do
      let c ← anyIdent c
      if atOp "::" c.rest then andThen (op "::") (g .useTree) c
      else if atWord "as" c.rest then
        let c ← word "as" c
        if atWord "_" c.rest then word "_" c else name c
      else some c
  else none

/-- A `use`. -/
def useItem (g : Grammar) : Step := fun c => do
  let c ← word "use" c
  let c ← optOp "::" c
  let c ← g .useTree c
  op ";" c

/-- The declaration of a crate from outside. -/
def externCrate : Step := fun c => do
  let c ← word "extern" c
  let c ← word "crate" c
  let c ← if atWord "self" c.rest then word "self" c else name c
  let c ←
    if atWord "as" c.rest then do
      let c ← word "as" c
      if atWord "_" c.rest then word "_" c else name c
    else some c
  op ";" c

-- =================================================== values and types

/-- A constant. Only inside a trait may it lack its value. -/
def constItem (g : Grammar) (bare : Bool) : Step := fun c => do
  let c ← word "const" c
  let c ← if atWord "_" c.rest then word "_" c else name c
  let c ← op ":" c
  let c ← g (.type true) c
  let c ←
    if bare && atOp ";" c.rest then some c
    else andThen (op "=") (g (.expr true)) c
  op ";" c

/-- A variable that lives as long as the program. -/
def staticItem (g : Grammar) : Step := fun c => do
  let c ← word "static" c
  let c ← optWord "mut" c
  let c ← name c
  let c ← op ":" c
  let c ← g (.type true) c
  let c ← op "=" c
  let c ← g (.expr true) c
  op ";" c

/-- A name for a type. Only inside a trait may it have bounds and lack
its type. -/
def typeItem (g : Grammar) (bare : Bool) : Step := fun c => do
  let c ← word "type" c
  let c ← name c
  let c ← generics g c
  let c ← if bare then boundsAfterColon g c else some c
  let c ← conditions g c
  let c ←
    if bare && !atOp "=" c.rest then some c
    else andThen (op "=") (g (.type true)) c
  let c ← conditions g c
  op ";" c

/-- A struct with named fields, with places, or with neither. -/
def structItem (g : Grammar) : Step := fun c => do
  let c ← word "struct" c
  let c ← name c
  let c ← generics g c
  if atGroup .paren c.rest then
    let c ← fieldsInGroup g c
    let c ← conditions g c
    op ";" c
  else
    let c ← conditions g c
    if atGroup .brace c.rest then fieldsInGroup g c else op ";" c

/-- A struct whose fields share one place. -/
def unionItem (g : Grammar) : Step := fun c => do
  let c ← word "union" c
  let c ← name c
  let c ← generics g c
  let c ← conditions g c
  group .brace (g (.commas (.fieldOf true))) c

/-- An enumeration. -/
def enumItem (g : Grammar) : Step := fun c => do
  let c ← word "enum" c
  let c ← name c
  let c ← generics g c
  let c ← conditions g c
  group .brace (g (.commas .variant)) c

-- ============================================================= functions

/-- A function with its body. Only inside a trait may it lack one. -/
def functionItem (g : Grammar) (bare : Bool) : Step := fun c => do
  let c ← signature g c
  if bare && atOp ";" c.rest then op ";" c else headedBlock g c

/-- A macro call as an item, perhaps one that names what it makes. -/
def macroItem : Step := fun c => do
  let c ← plainPath c
  let c ← op "!" c
  let c ← whenAt atName name c
  let brace := atGroup .brace c.rest
  let c ← rawGroup c
  if brace then some c else op ";" c

-- ====================================================== groups of items

/-- A module. -/
def moduleItem (g : Grammar) : Step := fun c => do
  let c ← optWord "unsafe" c
  let c ← word "mod" c
  let c ← name c
  if atOp ";" c.rest then op ";" c
  else group .brace (andThen (g .innerAttributes) (g .items)) c

/-- The inside of a trait or its implementation. -/
def memberGroup (g : Grammar) : Step :=
  group .brace (andThen (g .innerAttributes) (g .members))

/-- A trait. -/
def traitItem (g : Grammar) : Step := fun c => do
  let c ← optWord "unsafe" c
  let c ← optWord "auto" c
  let c ← word "trait" c
  let c ← name c
  let c ← generics g c
  let c ← boundsAfterColon g c
  let c ← conditions g c
  memberGroup g c

/-- Whether tokens start with the parameters of an implementation, and
not with a type qualified by another. -/
def atImplGenerics (ts : List Token) : Bool :=
  let next := ts.drop 1
  let third := if atLifetime next then next.drop 2 else next.drop 1
  atOp "<" ts && (atOp ">" next || atOp "#" next || atWord "const" next ||
    ((atName next || atLifetime next) &&
      (atOnly ":" ["::"] third || atOp "," third || atOp ">" third ||
        atOp "=" third)))

/-- The implementation of a trait for a type, or of a type alone. -/
def implItem (g : Grammar) : Step := fun c => do
  let c ← optWord "default" c
  let c ← optWord "unsafe" c
  let c ← word "impl" c
  let c ← whenAt atImplGenerics (generics g) c
  let c ← optOp "!" c
  let c ← g (.type true) c
  let c ← whenAt (atWord "for") (andThen (word "for") (g (.type true))) c
  let c ← conditions g c
  memberGroup g c

/-- An item inside a trait or its implementation. -/
def memberItem (g : Grammar) : Step := fun c => do
  let c ← g .attributes c
  let c ← visibility c
  let c ← optWord "default" c
  if atFunction c.rest then functionItem g true c
  else if atWord "const" c.rest then constItem g true c
  else if atWord "type" c.rest then typeItem g true c
  else macroItem c

/-- The items inside a trait or its implementation, to the end. -/
def membersRule (g : Grammar) : Step := fun c =>
  if c.rest.isEmpty then some c
  else andThen (memberItem g) (g .members) c

-- ================================================================= items

/-- Whether tokens start with a macro call that names what it makes. -/
def atMacroItem (ts : List Token) : Bool :=
  match plainPath ⟨[], ts, true, .other⟩ with
  | some c => atOp "!" c.rest &&
    (atName (c.rest.drop 1) || atWord "try" (c.rest.drop 1))
  | none => false

/-- Whether tokens start with an item, where a statement may stand as
well. -/
def atItem (ts : List Token) : Bool :=
  let next := ts.drop 1
  let third := next.drop 1
  atWord "pub" ts || (atWord "crate" ts && !atOp "::" next) ||
    atWord "extern" ts || atWord "use" ts ||
    (atWord "static" ts && (atWord "mut" next || atName next)) ||
    (atWord "const" ts && !(atGroup .brace next ||
      atWord "static" next || atWord "move" next || atOp "|" next ||
      (atWord "async" next && !(atWord "unsafe" third ||
        atWord "extern" third || atWord "fn" third)))) ||
    (atWord "unsafe" ts && !atGroup .brace next) ||
    (atWord "async" ts && (atWord "unsafe" next ||
      atWord "extern" next || atWord "fn" next)) ||
    atWord "fn" ts || atWord "mod" ts || atWord "type" ts ||
    atWord "struct" ts || atWord "enum" ts ||
    (atWord "union" ts && atName next) ||
    (atWord "auto" ts && atWord "trait" next) || atWord "trait" ts ||
    (atWord "default" ts && (atWord "unsafe" next ||
      atWord "impl" next)) ||
    atWord "impl" ts || atWord "macro" ts || atMacroItem ts

/-- An item without its attributes. -/
def item (g : Grammar) : Step := fun c => do
  let c ← visibility c
  let ts := c.rest
  let next := ts.drop 1
  if atFunction ts then functionItem g false c
  else if atWord "extern" ts then externCrate c
  else if atWord "use" ts then useItem g c
  else if atWord "static" ts then staticItem g c
  else if atWord "const" ts then constItem g false c
  else if atWord "type" ts then typeItem g false c
  else if atWord "struct" ts then structItem g c
  else if atWord "enum" ts then enumItem g c
  else if atWord "union" ts && atName next then unionItem g c
  else if atWord "mod" ts || (atWord "unsafe" ts && atWord "mod" next) then
    moduleItem g c
  else if atWord "impl" ts || atWord "default" ts ||
      (atWord "unsafe" ts && atWord "impl" next) then implItem g c
  else if atWord "trait" ts || atWord "auto" ts || atWord "unsafe" ts then
    traitItem g c
  else macroItem c

/-- Items, to the end. -/
def itemsRule (g : Grammar) : Step := fun c =>
  if c.rest.isEmpty then some c
  else andThen (g .attributes) (andThen (item g) (g .items)) c

end RuledList.View.Expression
