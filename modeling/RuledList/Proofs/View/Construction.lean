/-
The code of a view builds the nodes that the view describes. What it
describes is said by `Node.build`: an element is the element of its tag
with the property map that its attributes write and the nodes of its
children, a text is a text, and an expression is the node that its value
is turned into. The main statement (`view_code_builds_nodes`) is about
the tokens that a view is replaced with, as they are read and evaluated.
It holds in every monad, whatever the embedded expressions do.

# Evaluation

Outside the property map of an element no generated variable is in
sight, so nodes are evaluated without local variables
(`Code.eval_ofNode`). Inside it the variable of the attributes is, and
grows with each step (`Code.perform_ofAttributes`); that no expression
there sees it is what `Unmentioned` is for.

# Each expression once

That evaluation does nothing but go through the embedded expressions in
their order is a property of the description (`Draws`), kept by doing
one thing after the other (`Draws.seq`).

# What can be described

A tree is described by printing it: `exists_node` finds the nodes of a
view along the tree, and printed nodes are read back.
-/
import RuledList.Proofs.OrdMap.Write
import RuledList.Proofs.View.Reading
import RuledList.View.Code.Evaluation
import RuledList.View.Code.View

namespace RuledList.View

variable {m : Type → Type} [Monad m] {X : Type} (s : Surroundings m X)

-- ========================================================= what is built

/-- What an embedded expression comes to where no local variable is in
its sight. -/
def Surroundings.alone (e : List Token) : m X := s.embedded e []

def AttrValue.build : AttrValue → m Value
  | .literal l => pure (.string l.value)
  | .expr tokens => s.valueOf <$> s.alone tokens

def Attribute.build (a : Attribute) : m (String × Value) := do
  let v ← a.value.build s
  pure (a.name.text, v)

/-- The property map that attributes write. -/
def buildProps (attrs : List Attribute) : m Props := do
  let entries ← attrs.mapM (Attribute.build s)
  pure (OrdMap.ofList entries)

namespace Node

mutual

/-- The node that a node of a view describes. -/
def build : Node → m RuledList.Node
  | .element tag attrs children => do
    let props ← buildProps s attrs
    let nodes ← buildAll children
    pure (.create (.tag tag.text) props nodes)
  | .single tag attrs => do
    let props ← buildProps s attrs
    pure (.create (.tag tag.text) props [])
  | .text value => pure (.text value)
  | .expr tokens => s.nodeOf <$> s.alone tokens
termination_by structural n => n

/-- The nodes that several nodes of a view describe. -/
def buildAll : List Node → m (List RuledList.Node)
  | [] => pure []
  | n :: rest => do
    let built ← build n
    let others ← buildAll rest
    pure (built :: others)
termination_by structural ns => ns

end

mutual

/-- The expressions in the attributes of a node and those inside. -/
def inAttributes : Node → List (List Token)
  | .element _ attrs children =>
    embeddedIn attrs ++ inAttributesAll children
  | .single _ attrs => embeddedIn attrs
  | .text _ => []
  | .expr _ => []
termination_by structural n => n

/-- The expressions in the attributes of several nodes and those
inside. -/
def inAttributesAll : List Node → List (List Token)
  | [] => []
  | n :: rest => inAttributes n ++ inAttributesAll rest
termination_by structural ns => ns

end

end Node

/-- Expressions that do not mention the variable in which the attributes
of an element gather. -/
def Unmentioned (es : List (List Token)) : Prop :=
  ∀ e ∈ es, Token.mentionsAny Code.attrsVariable e = false

-- ============================================================ evaluation

theorem TextLiteral.textOfLiteral?_eq (l : TextLiteral) :
    textOfLiteral? l.spelling = some l.value :=
  (Option.some_get l.quoted).symm

@[simp] theorem known_some {α : Type} (a : α) :
    (known (some a) : OptionT m α) = pure a := rfl

namespace Code

@[simp] theorem eval_ofText (locals : Locals X) (t : String) :
    eval s locals (ofText t) = pure (.text t) := by
  rw [ofText, eval, textOfLiteral?_spelling]
  rfl

/-- An expression in an attribute does not see the property map. -/
theorem seenBy_attrsVariable {e : List Token} (p : Props)
    (h : Token.mentionsAny attrsVariable e = false) :
    Locals.seenBy [(attrsVariable, Datum.props p)] e
      = ([] : Locals X) := by
  rw [Locals.seenBy, List.filter_cons_of_neg (by simp [h]),
    List.filter_nil]

/-- An expression as code is a literal of a text that it is itself, or
taken over. -/
theorem ofExpression_cases (e : List Token) :
    (∃ spelling t, textOfLiteral? spelling = some t
        ∧ literalText? e = some t ∧ ofExpression e = .literal spelling)
      ∨ ofExpression e = .embedded e := by
  unfold ofExpression
  split
  · next spelling =>
    split
    · next hquoted =>
      obtain ⟨t, ht⟩ := Option.isSome_iff_exists.1 hquoted
      exact .inl ⟨spelling, t, ht, ht, rfl⟩
    · exact .inr rfl
  · exact .inr rfl

variable [LawfulMonad m]

/-- A function that makes the same of a text, whether it is a literal or
comes out of an expression, is applied to what its expression comes
to. -/
theorem eval_conversion {path : List String} {result : X → Datum X}
    (htext : ∀ t, Datum.call? s path [.text t]
      = some (result (s.textOf t)))
    (hforeign : ∀ x, Datum.call? s path [.foreign x] = some (result x))
    {locals : Locals X} {e : List Token} (hseen : locals.seenBy e = []) :
    eval s locals (.call path false [ofExpression e])
      = liftM (do let x ← s.alone e; pure (result x)) := by
  obtain ⟨spelling, t, ht, hliteral, hcode⟩ | hcode :=
    ofExpression_cases e
  · simp [hcode, eval, evalAll, ht, htext, Surroundings.alone,
      s.embedded_literal hliteral]
  · simp [hcode, eval, evalAll, hseen, hforeign, Surroundings.alone]

/-- The value of an attribute becomes a property value. -/
theorem eval_value {v : AttrValue} (p : Props)
    (h : Unmentioned v.embedded) :
    eval s [(attrsVariable, .props p)]
        (.call ["rule_render", "Value", "from"] false [ofAttrValue v])
      = liftM (do let value ← v.build s; pure (Datum.value value)) := by
  cases v with
  | literal l =>
      simp [eval, evalAll, ofAttrValue, l.textOfLiteral?_eq,
        AttrValue.build, Datum.call?]
  | expr tokens =>
      have hseen : Locals.seenBy [(attrsVariable, Datum.props p)] tokens
          = ([] : Locals X) :=
        seenBy_attrsVariable p (h tokens (List.mem_singleton.2 rfl))
      have htext : ∀ t,
          Datum.call? s ["rule_render", "Value", "from"] [.text t]
            = some (.value (s.valueOf (s.textOf t))) := by
        intro t
        rw [s.valueOf_textOf, Datum.call?]
      rw [ofAttrValue, eval_conversion s htext (fun x => rfl) hseen]
      simp [AttrValue.build]

/-- The step of an attribute writes its entry into the property map. -/
theorem step_ofAttribute {a : Attribute} (p : Props)
    (h : Unmentioned a.value.embedded) :
    step s [(attrsVariable, .props p)] (ofAttribute a)
      = liftM (do
          let e ← a.build s
          pure [(attrsVariable, Datum.props (p.insert e.1 e.2))]) := by
  have hname : eval s [(attrsVariable, Datum.props p)]
      (.call ["std", "string", "String", "from"] false
        [ofText a.name.text]) = pure (.text a.name.text) := by
    simp [eval, evalAll, Datum.call?]
  simp [ofAttribute, step, evalAll, hname, eval_value s p h,
    Attribute.build, findEntry, Datum.change?, putEntry]

/-- The steps of all attributes write their entries in order. -/
theorem perform_ofAttributes {attrs : List Attribute} :
    ∀ (p : Props), Unmentioned (embeddedIn attrs) →
      perform s [(attrsVariable, .props p)] (attrs.map ofAttribute)
        = liftM (do
            let entries ← attrs.mapM (Attribute.build s)
            pure [(attrsVariable, Datum.props (p.insertAll entries))]) := by
  induction attrs with
  | nil =>
      intro p _
      simp [perform, OrdMap.insertAll]
  | cons a attrs ih =>
      intro p h
      obtain ⟨hhead, htail⟩ := List.forall_mem_append.1 h
      simp [perform, step_ofAttribute s p hhead, ih _ htail,
        OrdMap.insertAll, List.mapM_cons]

theorem eval_ofAttributes {attrs : List Attribute}
    (h : Unmentioned (embeddedIn attrs)) :
    eval s [] (ofAttributes attrs)
      = liftM (do let p ← buildProps s attrs; pure (Datum.props p)) := by
  simp [ofAttributes, eval, evalAll, Datum.call?,
    perform_ofAttributes s _ h, buildProps, findEntry, OrdMap.ofList]

theorem allNodes?_map (ns : List RuledList.Node) :
    Datum.allNodes? (ns.map (Datum.node (X := X))) = some ns := by
  induction ns with
  | nil => rfl
  | cons n ns ih => rw [List.map_cons, Datum.allNodes?, ih, Option.map_some]

/-- An element is created from its tag, its property map and its
children, in that order. -/
theorem eval_ofElement (tag : Name) {attrs : List Attribute}
    (hattrs : Unmentioned (embeddedIn attrs)) {children : List Code}
    {act : m (List RuledList.Node)}
    (hchildren : evalAll s [] children
      = liftM (do let ns ← act; pure (ns.map Datum.node))) :
    eval s [] (ofElement tag attrs children)
      = liftM (do
          let p ← buildProps s attrs
          let ns ← act
          pure (Datum.node (.create (.tag tag.text) p ns))) := by
  simp [ofElement, eval, evalAll, eval_ofAttributes s hattrs, hchildren,
    allNodes?_map, Datum.call?]

mutual

theorem eval_ofNode (n : Node) (h : Unmentioned n.inAttributes) :
    eval s [] (ofNode n)
      = liftM (do let built ← n.build s; pure (Datum.node built)) := by
  cases n with
  | element tag attrs children =>
      obtain ⟨hattrs, hchildren⟩ := List.forall_mem_append.1 h
      have hbuilt := evalAll_ofNodes children hchildren
      simpa [ofNode, Node.build] using eval_ofElement s tag hattrs hbuilt
  | single tag attrs =>
      have hnone : evalAll s [] []
          = liftM (do
              let ns ← (pure [] : m (List RuledList.Node))
              pure (ns.map Datum.node)) := by
        simp [evalAll]
      simpa [ofNode, Node.build] using eval_ofElement s tag h hnone
  | text value =>
      simp [ofNode, nodePath, eval, evalAll, Datum.call?, Node.build]
  | expr tokens =>
      have htext : ∀ t, Datum.call? s (nodePath ++ ["from"]) [.text t]
          = some (.node (s.nodeOf (s.textOf t))) := by
        intro t
        rw [s.nodeOf_textOf]
        rfl
      rw [ofNode, eval_conversion s htext (fun x => rfl) List.filter_nil]
      simp [Node.build]
termination_by structural n

theorem evalAll_ofNodes (ns : List Node)
    (h : Unmentioned (Node.inAttributesAll ns)) :
    evalAll s [] (ofNodes ns)
      = liftM (do
          let built ← Node.buildAll s ns
          pure (built.map Datum.node)) := by
  cases ns with
  | nil => simp [ofNodes, evalAll, Node.buildAll]
  | cons n ns =>
      obtain ⟨hn, hns⟩ := List.forall_mem_append.1 h
      simp [ofNodes, evalAll, Node.buildAll, eval_ofNode n hn,
        evalAll_ofNodes ns hns]
termination_by structural ns

end

/-- The code of a view comes to the nodes that the view describes. -/
theorem eval_ofView (nodes : List Node)
    (h : Unmentioned (Node.inAttributesAll nodes)) :
    eval s [] (ofView nodes)
      = liftM (do
          let built ← Node.buildAll s nodes
          pure (Datum.nodes built)) := by
  simp [ofView, eval, evalAll_ofNodes s nodes h, allNodes?_map, findEntry]

end Code

-- =================================================== each expression once

variable [LawfulMonad m]

/-- What comes after a list has been gone through depends only on
results as many as the list has members. -/
theorem mapM_bind_congr {α β : Type} {f : α → m β} :
    ∀ {l : List α} {γ : Type} {k k' : List β → m γ},
      (∀ bs, bs.length = l.length → k bs = k' bs) →
      l.mapM f >>= k = l.mapM f >>= k'
  | [], _, k, k', h => by simp [h [] rfl]
  | a :: l, _, k, k', h => by
      have hrest (b : β) :
          (l.mapM f >>= fun bs => k (b :: bs))
            = l.mapM f >>= fun bs => k' (b :: bs) :=
        mapM_bind_congr fun bs hlen => h (b :: bs) (by simp [hlen])
      simp [List.mapM_cons, hrest]

/-- What does nothing but evaluate some expressions, one after the
other, and put their values together. -/
def Draws {α : Type} (es : List (List Token)) (act : m α) : Prop :=
  ∃ assemble : List X → α, act = assemble <$> es.mapM s.alone

variable {s}

theorem draws_pure {α : Type} (a : α) : Draws s [] (pure a : m α) :=
  ⟨fun _ => a, by simp⟩

theorem draws_alone {α : Type} (f : X → α) (e : List Token) (a : α) :
    Draws s [e] (f <$> s.alone e) :=
  ⟨fun xs => match xs with
    | [] => a
    | x :: _ => f x, by simp [List.mapM_cons]⟩

theorem Draws.map {α β : Type} {es : List (List Token)} {act : m α}
    (h : Draws s es act) (f : α → β) :
    Draws s es (do let a ← act; pure (f a)) := by
  obtain ⟨assemble, rfl⟩ := h
  exact ⟨fun xs => f (assemble xs), by simp⟩

/-- Two doings in a row evaluate the expressions of the first, then
those of the second. -/
theorem Draws.seq {α β γ : Type} {es es' : List (List Token)}
    {act : m α} {act' : m β} (h : Draws s es act) (h' : Draws s es' act')
    (f : α → β → γ) :
    Draws s (es ++ es') (do let a ← act; let b ← act'; pure (f a b)) := by
  obtain ⟨assemble, rfl⟩ := h
  obtain ⟨assemble', rfl⟩ := h'
  -- the values come in one list, and the first act's are as many as
  -- its expressions
  refine ⟨fun xs => f (assemble (xs.take es.length))
    (assemble' (xs.drop es.length)), ?_⟩
  simp only [List.mapM_append, map_eq_pure_bind, bind_assoc, pure_bind]
  exact mapM_bind_congr fun xs hlen => by simp [← hlen]

theorem draws_value (v : AttrValue) :
    Draws s v.embedded (v.build s) := by
  cases v with
  | literal l => exact draws_pure _
  | expr tokens => exact draws_alone s.valueOf tokens .null

theorem draws_entries (attrs : List Attribute) :
    Draws s (embeddedIn attrs) (attrs.mapM (Attribute.build s)) := by
  induction attrs with
  | nil => exact draws_pure []
  | cons a attrs ih =>
      rw [List.mapM_cons]
      exact ((draws_value a.value).map (a.name.text, ·)).seq ih
        List.cons

theorem draws_props (attrs : List Attribute) :
    Draws s (embeddedIn attrs) (buildProps s attrs) :=
  (draws_entries attrs).map OrdMap.ofList

mutual

theorem draws_node (n : Node) : Draws s n.embedded (n.build s) := by
  cases n with
  | element tag attrs children =>
      exact (draws_props attrs).seq (draws_nodes children)
        (RuledList.Node.create (.tag tag.text))
  | single tag attrs =>
      exact (draws_props attrs).map
        fun p => RuledList.Node.create (.tag tag.text) p []
  | text value => exact draws_pure _
  | expr tokens => exact draws_alone s.nodeOf tokens (.text "")
termination_by structural n

theorem draws_nodes (ns : List Node) :
    Draws s (Node.embeddedAll ns) (Node.buildAll s ns) := by
  cases ns with
  | nil => exact draws_pure []
  | cons n ns => exact (draws_node n).seq (draws_nodes ns) List.cons
termination_by structural ns

end

-- ========================================================== completeness

section Describable

variable (s : Surroundings m X) (reader : ExprReader)

/-- Property values that a view can give to an attribute: strings, and
what an expression comes to that can be an argument and does not need
the variable of the attributes. -/
inductive GivenValue : Value → Prop
  | string (t : String) : GivenValue (.string t)
  | expr {e : List Token} {x : X} (hpasses : reader.Passes e)
      (hunmentioned : Token.mentionsAny Code.attrsVariable e = false)
      (halone : s.alone e = pure x) :
    GivenValue (s.valueOf x)

/-- Trees of elements and texts whose tags and attribute names are legal
and whose attributes a view can give. -/
inductive Describable : RuledList.Node → Prop
  | text (t : String) : Describable (.text t)
  | element (tag : Name) {attrs : Props} {children : List RuledList.Node}
      (hnames : ∀ e ∈ attrs.entries, ∃ name : Name, name.text = e.1)
      (hvalues : ∀ e ∈ attrs.entries, GivenValue s reader e.2)
      (hchildren : ∀ c ∈ children, Describable c) :
    Describable (.element tag.text attrs children)

variable {s reader}

theorem exists_value {v : Value} (h : GivenValue s reader v) :
    ∃ a : AttrValue, (∀ e ∈ a.embedded, reader.Passes e)
      ∧ Unmentioned a.embedded ∧ a.build s = pure v := by
  cases h with
  | string t =>
      have hquoted : isTextLiteral (spelling t) = true := by
        rw [isTextLiteral, textOfLiteral?_spelling]
        rfl
      have hvalue : (TextLiteral.mk (spelling t) hquoted).value = t := by
        have hread := TextLiteral.textOfLiteral?_eq ⟨spelling t, hquoted⟩
        rw [textOfLiteral?_spelling] at hread
        exact (Option.some.inj hread).symm
      refine ⟨.literal ⟨spelling t, hquoted⟩, nofun, nofun, ?_⟩
      rw [AttrValue.build, hvalue]
  | @expr e x hpasses hunmentioned halone =>
      refine ⟨.expr e, ?_, ?_, by simp [AttrValue.build, halone]⟩
      · exact fun _ he => List.mem_singleton.1 he ▸ hpasses
      · exact fun _ he => List.mem_singleton.1 he ▸ hunmentioned

theorem exists_attributes {entries : List (String × Value)}
    (hnames : ∀ e ∈ entries, ∃ name : Name, name.text = e.1)
    (hvalues : ∀ e ∈ entries, GivenValue s reader e.2) :
    ∃ attrs : List Attribute,
      (∀ e ∈ embeddedIn attrs, reader.Passes e)
      ∧ Unmentioned (embeddedIn attrs)
      ∧ attrs.mapM (Attribute.build s) = pure entries := by
  induction entries with
  | nil => exact ⟨[], nofun, nofun, by simp⟩
  | cons e rest ih =>
      obtain ⟨name, hname⟩ := hnames e List.mem_cons_self
      obtain ⟨v, hpass, hunmentioned, hbuild⟩ :=
        exists_value (hvalues e List.mem_cons_self)
      obtain ⟨attrs, hpass', hunmentioned', hbuild'⟩ :=
        ih (fun e he => hnames e (List.mem_cons_of_mem _ he))
          (fun e he => hvalues e (List.mem_cons_of_mem _ he))
      refine ⟨⟨name, v⟩ :: attrs,
        List.forall_mem_append.2 ⟨hpass, hpass'⟩,
        List.forall_mem_append.2 ⟨hunmentioned, hunmentioned'⟩, ?_⟩
      simp [List.mapM_cons, Attribute.build, hbuild, hbuild', hname]

/-- Trees that can be described one by one can be described together. -/
theorem exists_nodes {ns : List RuledList.Node}
    (h : ∀ n ∈ ns, ∃ v : Node, (∀ e ∈ v.embedded, reader.Passes e)
      ∧ Unmentioned v.inAttributes ∧ v.build s = pure n) :
    ∃ vs : List Node, vs.length = ns.length
      ∧ (∀ e ∈ Node.embeddedAll vs, reader.Passes e)
      ∧ Unmentioned (Node.inAttributesAll vs)
      ∧ Node.buildAll s vs = pure ns := by
  induction ns with
  | nil => exact ⟨[], rfl, nofun, nofun, rfl⟩
  | cons n ns ih =>
      obtain ⟨v, hpass, hunmentioned, hbuild⟩ := h n List.mem_cons_self
      obtain ⟨vs, hlen, hpass', hunmentioned', hbuild'⟩ :=
        ih fun n hn => h n (List.mem_cons_of_mem _ hn)
      refine ⟨v :: vs, by rw [List.length_cons, hlen, List.length_cons],
        List.forall_mem_append.2 ⟨hpass, hpass'⟩,
        List.forall_mem_append.2 ⟨hunmentioned, hunmentioned'⟩, ?_⟩
      simp [Node.buildAll, hbuild, hbuild']

theorem exists_node {n : RuledList.Node} (h : Describable s reader n) :
    ∃ v : Node, (∀ e ∈ v.embedded, reader.Passes e)
      ∧ Unmentioned v.inAttributes ∧ v.build s = pure n := by
  induction h with
  | text t => exact ⟨.text t, nofun, nofun, rfl⟩
  | @element tag attrs children hnames hvalues _ ih =>
      obtain ⟨as, hpass, hunmentioned, hbuild⟩ :=
        exists_attributes hnames hvalues
      obtain ⟨vs, -, hpass', hunmentioned', hbuild'⟩ := exists_nodes ih
      refine ⟨.element tag as vs,
        List.forall_mem_append.2 ⟨hpass, hpass'⟩,
        List.forall_mem_append.2 ⟨hunmentioned, hunmentioned'⟩, ?_⟩
      simp [Node.build, buildProps, hbuild, hbuild',
        OrdMap.ofList_entries, RuledList.Node.create]

end Describable

-- ================================================================= views

theorem Code.expansion_eq_ok {reader : ExprReader} {ts : List Token}
    {nodes : List Node} (h : Node.ofTokens reader ts = .ok nodes) :
    Code.expansion reader ts = .ok (Code.ofView nodes).tokens := by
  rw [Code.expansion, Code.ofTokens, h]
  rfl

/-- The tokens of a view's code evaluate to the nodes that the view
describes. -/
theorem Code.evalTokens_ofView (s : Surroundings m X)
    {reader : ExprReader} {nodes : List Node}
    (hpass : ∀ e ∈ Node.embeddedAll nodes, reader.Passes e)
    (hunmentioned : Unmentioned (Node.inAttributesAll nodes)) :
    (Code.evalTokens s reader (Code.ofView nodes).tokens).run = (do
      let built ← Node.buildAll s nodes
      pure (some (Datum.nodes built))) := by
  rw [Code.evalTokens, Code.read?_ofView hpass, known_some, pure_bind,
    Code.eval_ofView s nodes hunmentioned]
  refine (OptionT.run_lift _).trans ?_
  simp

theorem Node.ofTokens_tokensAll {reader : ExprReader}
    {nodes : List Node} (hsome : nodes ≠ [])
    (h : reader.Takes (Node.embeddedAll nodes)) :
    Node.ofTokens reader (Node.tokensAll nodes) = .ok nodes := by
  rw [Node.ofTokens, Node.allOfTokens_tokensAll h]
  exact if_neg (by simpa using hsome)

theorem Node.buildAll_eq_mapM (s : Surroundings m X)
    (nodes : List Node) :
    Node.buildAll s nodes = nodes.mapM (Node.build s) := by
  induction nodes with
  | nil => rfl
  | cons n nodes ih => rw [Node.buildAll, List.mapM_cons, ih]

variable (s)

/-- The tokens that a view is replaced with come to a node for each of
its nodes, in their order. Their effects are those of the embedded
expressions, each once and from left to right. A property map has each
name where it was first given with the value that was given last. And
every tree that can be described is what the code of some view comes
to. -/
theorem view_code_builds_nodes (reader : ExprReader) :
    (∀ ts nodes, Node.ofTokens reader ts = .ok nodes →
        (∀ e ∈ Node.embeddedAll nodes, reader.Passes e) →
        Unmentioned (Node.inAttributesAll nodes) →
        ∃ out, Code.expansion reader ts = .ok out
          ∧ (Code.evalTokens s reader out).run = (do
              let built ← nodes.mapM (Node.build s)
              pure (some (Datum.nodes built))))
      ∧ (∀ nodes : List Node, ∃ assemble : List X → List RuledList.Node,
        nodes.mapM (Node.build s)
          = assemble <$> (Node.embeddedAll nodes).mapM s.alone)
      ∧ (∀ entries : List (String × Value),
        (OrdMap.ofList entries).keys = (entryNames entries).eraseDups
          ∧ ∀ name, (OrdMap.ofList entries).get? name
            = entries.reverse.lookup name)
      ∧ ∀ ns : List RuledList.Node, ns ≠ [] →
        (∀ n ∈ ns, Describable s reader n) →
        ∃ ts out, Code.expansion reader ts = .ok out
          ∧ (Code.evalTokens s reader out).run
            = pure (some (Datum.nodes ns)) := by
  refine ⟨?_, ?_, ?_, ?_⟩
  · intro ts nodes hnodes hpass hunmentioned
    refine ⟨(Code.ofView nodes).tokens, Code.expansion_eq_ok hnodes, ?_⟩
    rw [Code.evalTokens_ofView s hpass hunmentioned,
      Node.buildAll_eq_mapM]
  · intro nodes
    rw [← Node.buildAll_eq_mapM]
    exact draws_nodes nodes
  · exact fun entries =>
      ⟨OrdMap.keys_ofList entries, OrdMap.get?_ofList entries⟩
  · intro ns hsome hdescribable
    obtain ⟨nodes, hlen, hpass, hunmentioned, hbuild⟩ :=
      exists_nodes fun n hn => exists_node (hdescribable n hn)
    have hnodes : nodes ≠ [] := by
      rintro rfl
      exact hsome (List.length_eq_zero_iff.1 hlen.symm)
    have htakes : reader.Takes (Node.embeddedAll nodes) :=
      fun e he => (hpass e he).taken
    refine ⟨Node.tokensAll nodes, (Code.ofView nodes).tokens,
      Code.expansion_eq_ok (Node.ofTokens_tokensAll hnodes htakes), ?_⟩
    rw [Code.evalTokens_ofView s hpass hunmentioned, hbuild, pure_bind]

-- ======================================================== a banner, built

/-- Surroundings in which an expression comes to the number of those
that were evaluated before it, unless it is a text. -/
def counting : Surroundings (StateM Nat) (String ⊕ Nat) where
  embedded e _ :=
    match literalText? e with
    | some t => pure (.inl t)
    | none => modifyGet fun n => (.inr n, n + 1)
  valueOf
    | .inl t => .string t
    | .inr n => .int n
  nodeOf
    | .inl t => .text t
    | .inr n => .text (toString n)
  textOf := .inl
  embedded_literal h locals := by rw [h]
  valueOf_textOf _ := rfl
  nodeOf_textOf _ := rfl

open Token in
/-- An expression that is a conjunction. -/
def conjunction : List Token :=
  [word "x", .punct '&' true, mark '&', mark '!', word "y"]

open Token in
/-- An expression with a comma of its own. -/
def pairing : List Token :=
  [word "pair", .punct ':' true, mark ':', mark '<', word "u8"] ++
    mark ',' :: [word "u8", mark '>', .group .paren [word "z"]]

/-- A banner: an element with a string literal in braces and an
expression for attributes, a text and a self-closing element inside, and
an expression with a comma after it. -/
def banner : List Node :=
  [.element ⟨false, "p", rfl⟩
      [⟨⟨false, "class", rfl⟩, .expr [.literal "\"a\""]⟩,
        ⟨⟨false, "hidden", rfl⟩, .expr conjunction⟩]
      [.text "hi", .single ⟨false, "br", rfl⟩ []],
    .expr pairing]

theorem banner_passes :
    ∀ e ∈ Node.embeddedAll banner,
      ExprReader.Passes Expression.take? e := by
  intro e he
  have hcases : e = [.literal "\"a\""] ∨ e = conjunction
      ∨ e = pairing := by
    simpa [banner, Node.embeddedAll, Node.embedded, embeddedIn,
      AttrValue.embedded] using he
  rcases hcases with rfl | rfl | rfl
  · exact ExprReader.passes_of_no_comma rfl (List.cons_ne_nil _ _)
      (by simp)
  · exact ExprReader.passes_of_no_comma rfl (List.cons_ne_nil _ _)
      (by simp [conjunction, mark, Token.word])
  · exact ExprReader.passes_of_comma rfl (by simp [mark, Token.word])
      (by simp [mark, Token.word]) rfl

/-- The banner's tokens count its two expressions, that of the attribute
first, and leave the literal as it is. -/
theorem banner_tokens_build_banner :
    Node.ofTokens Expression.take? (Node.tokensAll banner) = .ok banner
      ∧ (∀ e ∈ Node.embeddedAll banner,
        ExprReader.Passes Expression.take? e)
      ∧ Unmentioned (Node.inAttributesAll banner)
      ∧ (∃ out, Code.expansion Expression.take? (Node.tokensAll banner)
          = .ok out
        ∧ (Code.evalTokens counting Expression.take? out).run 0
          = (some (.nodes
              [.element "p" (OrdMap.ofList
                  [("class", .string "a"), ("hidden", .int 0)])
                [.text "hi", .element "br" OrdMap.empty []],
              .text "1"]), 2))
      ∧ Describable counting Expression.take?
        (.element "p" (OrdMap.ofList [("class", .string "a")])
          [.text "hi"])
      ∧ ∃ ts out, Code.expansion Expression.take? ts = .ok out
        ∧ (Code.evalTokens counting Expression.take? out).run
          = pure (some (.nodes
              [.element "p" (OrdMap.ofList [("class", .string "a")])
                [.text "hi"]])) := by
  obtain ⟨hcode, -, -, hdescribed⟩ :=
    view_code_builds_nodes counting Expression.take?
  have hnodes : Node.ofTokens Expression.take? (Node.tokensAll banner)
      = .ok banner :=
    Node.ofTokens_tokensAll (List.cons_ne_nil _ _)
      fun e he => (banner_passes e he).taken
  have hunmentioned : Unmentioned (Node.inAttributesAll banner) := by
    intro e he
    have hcases : e = [.literal "\"a\""] ∨ e = conjunction := by
      simpa [banner, Node.inAttributesAll, Node.inAttributes, embeddedIn,
        AttrValue.embedded] using he
    rcases hcases with rfl | rfl <;> rfl
  obtain ⟨out, hok, hrun⟩ := hcode _ banner hnodes banner_passes
    hunmentioned
  have hpart : Describable counting Expression.take?
      (.element "p" (OrdMap.ofList [("class", .string "a")])
        [.text "hi"]) := by
    refine .element ⟨false, "p", rfl⟩ ?_ ?_ ?_
    · intro e he
      obtain rfl := List.mem_singleton.1 he
      exact ⟨⟨false, "class", rfl⟩, rfl⟩
    · intro e he
      obtain rfl := List.mem_singleton.1 he
      exact .string "a"
    · intro c hc
      obtain rfl := List.mem_singleton.1 hc
      exact .text "hi"
  refine ⟨hnodes, banner_passes, hunmentioned, ⟨out, hok, ?_⟩, hpart,
    hdescribed _ (List.cons_ne_nil _ _)
      fun n hn => List.mem_singleton.1 hn ▸ hpart⟩
  rw [hrun]
  rfl

end RuledList.View
