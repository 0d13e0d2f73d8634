/-
Inspection texts. Everything in the library that can be looked at from
outside — a value, a rule, a tree, an instance — is first described as
a `Shown`, and one printer turns the description into a line of text.
The spelling of brackets and separators is decided here and nowhere
else, so two kinds of thing with the same shape always look alike.
-/
import RuledList.Text.Quoted

namespace RuledList

/-- What an inspection text says, before it is written down. -/
inductive Shown where
  /-- A bare word: `Null`, `true`, `12`. -/
  | word (text : String)
  /-- A string in inspection quotes. -/
  | string (text : String)
  /-- A head with its arguments in parentheses: `Bool(true)`. -/
  | call (head : String) (arguments : List Shown)
  /-- A head with named fields in braces: `Event { name: "a" }`. A
  `partly` shown record ends in two dots for what it keeps back. -/
  | record (head : String) (fields : List (String × Shown))
      (partly : Bool)
  /-- Items in square brackets. -/
  | list (items : List Shown)
  /-- Quoted keys and what stands under them, in braces. -/
  | map (entries : List (String × Shown))
  /-- A word before a description: `Array [Null]`. -/
  | labelled (label : String) (body : Shown)

namespace Shown

-- ========================================================== the printer

mutual

/-- The line of text that a description stands for. -/
def text : Shown → String
  | .word t => t
  | .string t => Text.quoted t
  | .call head args => head ++ "(" ++ ", ".intercalate (texts args) ++ ")"
  | .record head fields partly =>
    let shown := fieldTexts fields ++ if partly then [".."] else []
    head ++ " \x7b " ++ ", ".intercalate shown ++ " \x7d"
  | .list items => "[" ++ ", ".intercalate (texts items) ++ "]"
  | .map entries =>
    "\x7b" ++ ", ".intercalate (entryTexts entries) ++ "\x7d"
  | .labelled label body => label ++ " " ++ text body
termination_by structural s => s

/-- The texts of several descriptions, in order. -/
def texts : List Shown → List String
  | [] => []
  | s :: rest => text s :: texts rest
termination_by structural ss => ss

/-- Named fields: the bare name, a colon, the field. -/
def fieldTexts : List (String × Shown) → List String
  | [] => []
  | (name, s) :: rest => (name ++ ": " ++ text s) :: fieldTexts rest
termination_by structural fs => fs

/-- Map entries: the quoted key, a colon, the entry. -/
def entryTexts : List (String × Shown) → List String
  | [] => []
  | (key, s) :: rest =>
    (Text.quoted key ++ ": " ++ text s) :: entryTexts rest
termination_by structural es => es

end

-- ====================================================== everyday shapes

/-- A truth value. -/
def flag (b : Bool) : Shown := .word (if b then "true" else "false")

/-- A count. -/
def count (n : Nat) : Shown := .word (toString n)

/-- Something that may be missing. -/
def option : Option Shown → Shown
  | none => .word "None"
  | some s => .call "Some" [s]

/-- A list of strings. -/
def strings (names : List String) : Shown := .list (names.map .string)

/-- A record shown in full. -/
def struct (head : String) (fields : List (String × Shown)) : Shown :=
  .record head fields false

end Shown

end RuledList
