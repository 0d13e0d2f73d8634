/-
The order of a render pass. A pass is a loop that carries a state past
every item, and three things come out of it side by side: trees, the
positions of items that no rule accepts, and warnings about them. What
ties the three together is the position of an item in the list, never
its rank among the items that are rendered.

# Cutting a list

A pass over two lists, one behind the other, is the pass over the first
and then the pass over the second, with positions counted on and in the
state that the first left (`Pass.renderFrom_append`). So what an item is
rendered in is the state after a pass over the items before it, and a
node is told apart by where the list is cut (`Pass.RendersAt`).

# Positions

The positions that are reported lie among those of the list, in order
(`Registry.unmatchedFrom_sublist`); all the others have one node each
(`Pass.rendersAt_renderFrom`), and every reported one has one warning
(`Pass.unmatchedNotices_renderFrom`). All three go by induction on the
list, with the position of its head as a parameter.
-/
import Mathlib.Data.List.Forall2
import Mathlib.Data.List.Range
import RuledList.Proofs.Instance.Output
import RuledList.Proofs.Instance.Run
import RuledList.Proofs.OrdMap.Write
import RuledList.Proofs.Rule.Matching

namespace RuledList

-- ============================================================= selection

namespace Registry

/-- A rule is the one for an item: it accepts the item, and no rule
before it does. -/
def Picks (r : Registry) (item : Props) (rule : Rule) : Prop :=
  ∃ earlier later, r.rules = earlier ++ rule :: later
    ∧ rule.accepts item = true
    ∧ ∀ other ∈ earlier, other.accepts item = false

/-- No rule is for an item. -/
def Declines (r : Registry) (item : Props) : Prop :=
  ∀ rule ∈ r.rules, rule.accepts item = false

theorem picks_of_select? {r : Registry} {item : Props} {rule : Rule}
    (h : r.select? item = some rule) : r.Picks item rule := by
  obtain ⟨haccepts, earlier, later, hrules, hearlier⟩ :=
    List.find?_eq_some_iff_append.1 h
  refine ⟨earlier, later, hrules, haccepts, fun other hother => ?_⟩
  simpa using hearlier other hother

theorem declines_iff {r : Registry} {item : Props} :
    r.Declines item ↔ r.select? item = none := by
  unfold Declines select?
  rw [List.find?_eq_none]
  exact forall₂_congr fun rule _ => by rw [Bool.not_eq_true]

/-- The reported positions are positions of the list, in order. -/
theorem unmatchedFrom_sublist (r : Registry) (data : List Props) :
    ∀ start, (r.unmatchedFrom start data).Sublist
      (List.range' start data.length) := by
  induction data with
  | nil => intro start; exact List.Sublist.refl _
  | cons item rest ih =>
      intro start
      rw [List.length_cons, List.range'_succ]
      unfold unmatchedFrom
      split
      · exact (ih (start + 1)).cons_cons start
      · exact (ih (start + 1)).cons start

theorem start_lt_of_mem_unmatchedFrom {r : Registry} {data : List Props}
    {start k : Nat} (h : k ∈ r.unmatchedFrom (start + 1) data) :
    start < k := by
  have hin := (r.unmatchedFrom_sublist data (start + 1)).subset h
  rw [List.mem_range'_1] at hin
  omega

/-- The reported positions are those of the items that no rule is
for. -/
theorem mem_unmatchedFrom (r : Registry) (data : List Props) :
    ∀ start k, k ∈ r.unmatchedFrom start data
      ↔ ∃ before item after, data = before ++ item :: after
        ∧ k = start + before.length ∧ r.Declines item := by
  induction data with
  | nil => simp [unmatchedFrom]
  | cons item rest ih =>
      intro start k
      -- a cut of the whole list is at its head or a cut of the rest
      have hcut : (∃ before other after,
            item :: rest = before ++ other :: after
              ∧ k = start + before.length ∧ r.Declines other)
          ↔ (k = start ∧ r.Declines item)
            ∨ k ∈ r.unmatchedFrom (start + 1) rest := by
        rw [ih]
        constructor
        · rintro ⟨before, other, after, hdata, hk, hnone⟩
          cases before with
          | nil =>
              cases hdata
              exact .inl ⟨hk, hnone⟩
          | cons _ before =>
              injection hdata with _ hrest
              rw [List.length_cons] at hk
              exact .inr ⟨before, other, after, hrest, by omega, hnone⟩
        · rintro (⟨hk, hnone⟩ | ⟨before, other, after, hrest, hk, hnone⟩)
          · exact ⟨[], item, rest, rfl, hk, hnone⟩
          · refine ⟨item :: before, other, after, ?_, ?_, hnone⟩
            · rw [hrest, List.cons_append]
            · rw [List.length_cons]
              omega
      rw [hcut, declines_iff, unmatchedFrom]
      cases r.select? item with
      | none => simp
      | some rule => simp

end Registry

-- ======================================================= cutting a list

namespace Pass

variable {registry : Registry} {bound attrs : Props}

/-- A pass over two lists, one behind the other, is the pass over the
first and then the pass over the second, counting on. -/
theorem renderFrom_append (xs ys : List Props) :
    ∀ (start : Nat) (p : Pass),
      let first := renderFrom registry bound attrs start xs p
      let second := renderFrom registry bound attrs (start + xs.length) ys
        first.2.2
      renderFrom registry bound attrs start (xs ++ ys) p
        = (first.1 ++ second.1, first.2.1 ++ second.2.1, second.2.2) := by
  induction xs with
  | nil => intro start p; rfl
  | cons item rest ih =>
      intro start p
      have hcount : start + (item :: rest).length
          = start + 1 + rest.length := by
        rw [List.length_cons]
        omega
      rw [hcount, List.cons_append]
      simp only [renderFrom]
      cases registry.select? item with
      | none =>
          simp only [ih]
          rfl
      | some rule =>
          simp only [ih]
          rfl

/-- What a pass over some items leaves for the one behind them. -/
def leftBy (registry : Registry) (bound attrs : Props) (start : Nat)
    (before : List Props) (p : Pass) : Pass :=
  (renderFrom registry bound attrs start before p).2.2

theorem leftBy_append (xs ys : List Props) (start : Nat) (p : Pass) :
    leftBy registry bound attrs start (xs ++ ys) p
      = leftBy registry bound attrs (start + xs.length) ys
          (leftBy registry bound attrs start xs p) :=
  congrArg (fun out => out.2.2) (renderFrom_append xs ys start p)

/-- An item that no rule is for leaves what it found, and a warning. -/
theorem leftBy_declined {item : Props} (h : registry.Declines item)
    (start : Nat) (before : List Props) (p : Pass) :
    let q := leftBy registry bound attrs start before p
    leftBy registry bound attrs start (before ++ [item]) p
      = { q with notices := q.notices
          ++ [.unmatchedItem (start + before.length) item.keys] } := by
  intro q
  rw [leftBy_append]
  simp only [leftBy, renderFrom, Registry.declines_iff.1 h]
  rfl

/-- A node is what a pass over a list renders at a position: of the item
there, by the rule for it, in what the items before have left. What the
render function makes of the globals is left for the items behind, and
so are the events with declared names that it tries to emit. -/
def RendersAt (registry : Registry) (bound attrs : Props) (start : Nat)
    (data : List Props) (p : Pass) (position : Nat) (node : Node) : Prop :=
  ∃ before item after rule, data = before ++ item :: after
    ∧ position = start + before.length
    ∧ registry.Picks item rule
    ∧ let q := leftBy registry bound attrs start before p
      let r := leftBy registry bound attrs start (before ++ [item]) p
      let out := rule.render (rule.resolve bound item position) position
        (q.surroundings attrs) q.globals
      node = out.node ∧ r.globals = out.globals
        ∧ r.emitter = { q.emitter with
            queue := q.emitter.queue
              ++ out.attempts.filter fun e => q.emitter.isDeclared e.name }

/-- The head of a list renders by the rule for it. -/
theorem RendersAt.head {item : Props} {rule : Rule}
    (h : registry.select? item = some rule) (start : Nat)
    (rest : List Props) (p : Pass) :
    RendersAt registry bound attrs start (item :: rest) p start
      (p.renderItem rule bound attrs item start).1 := by
  have hleft : leftBy registry bound attrs start [item] p
      = (p.renderItem rule bound attrs item start).2 := by
    simp only [leftBy, renderFrom, h]
  refine ⟨[], item, rest, rule, rfl, rfl, Registry.picks_of_select? h,
    rfl, ?_, ?_⟩
  · rw [List.nil_append, hleft, renderItem_eq_offerAll, globals_offerAll]
    rfl
  · rw [List.nil_append, hleft, renderItem_eq_offerAll, emitter_offerAll]
    rfl

/-- What is rendered behind the head of a list is rendered in what the
head leaves. -/
theorem RendersAt.cons {start : Nat} {item : Props} {rest : List Props}
    {p q : Pass} {position : Nat} {node : Node}
    (hq : leftBy registry bound attrs start [item] p = q)
    (h : RendersAt registry bound attrs (start + 1) rest q position node) :
    RendersAt registry bound attrs start (item :: rest) p position
      node := by
  obtain ⟨before, other, after, rule, hrest, hposition, hpicks, hout⟩ := h
  have hleft : ∀ items : List Props,
      leftBy registry bound attrs start (item :: items) p
        = leftBy registry bound attrs (start + 1) items q := by
    intro items
    rw [← hq]
    exact leftBy_append [item] items start p
  refine ⟨item :: before, other, after, rule, ?_, ?_, hpicks, ?_⟩
  · rw [hrest, List.cons_append]
  · rw [hposition, List.length_cons]
    omega
  · rw [List.cons_append, hleft, hleft]
    exact hout

-- ============================================================ positions

/-- All positions that are not reported have one node each, in order. -/
theorem rendersAt_renderFrom (data : List Props) :
    ∀ (start : Nat) (p : Pass),
      List.Forall₂ (RendersAt registry bound attrs start data p)
        ((List.range' start data.length).filter fun k =>
          k ∉ registry.unmatchedFrom start data)
        (renderFrom registry bound attrs start data p).1 := by
  induction data with
  | nil => intro start p; exact .nil
  | cons item rest ih =>
      intro start p
      rw [List.length_cons, List.range'_succ]
      cases hrule : registry.select? item with
      | none =>
          -- the head is reported, and no later position is the head's
          have hlist : registry.unmatchedFrom start (item :: rest)
              = start :: registry.unmatchedFrom (start + 1) rest := by
            simp [Registry.unmatchedFrom, hrule]
          have hlater : (List.range' (start + 1) rest.length).filter
                (fun k => k ∉ start ::
                  registry.unmatchedFrom (start + 1) rest)
              = (List.range' (start + 1) rest.length).filter fun k =>
                  k ∉ registry.unmatchedFrom (start + 1) rest := by
            refine List.filter_congr fun k hk => ?_
            rw [List.mem_range'_1] at hk
            have hne : k ≠ start := by omega
            simp [hne]
          rw [hlist, List.filter_cons_of_neg (by simp), hlater]
          simp only [renderFrom, hrule]
          refine (ih (start + 1) _).imp fun k node hk => hk.cons ?_
          simp only [leftBy, renderFrom, hrule]
      | some rule =>
          have hlist : registry.unmatchedFrom start (item :: rest)
              = registry.unmatchedFrom (start + 1) rest := by
            simp [Registry.unmatchedFrom, hrule]
          have hhead : start ∉ registry.unmatchedFrom (start + 1) rest :=
            fun hin => Nat.lt_irrefl _
              (Registry.start_lt_of_mem_unmatchedFrom hin)
          rw [hlist, List.filter_cons_of_pos (by simpa using hhead)]
          simp only [renderFrom, hrule]
          refine .cons (.head hrule start rest p)
            ((ih (start + 1) _).imp fun k node hk => hk.cons ?_)
          simp only [leftBy, renderFrom, hrule]

/-- Every item has a node or is reported. -/
theorem length_renderFrom (data : List Props) :
    ∀ (start : Nat) (p : Pass),
      let out := renderFrom registry bound attrs start data p
      out.1.length + out.2.1.length = data.length := by
  induction data with
  | nil => intro start p; rfl
  | cons item rest ih =>
      intro start p
      simp only [renderFrom]
      cases registry.select? item with
      | none =>
          rw [List.length_cons, List.length_cons, ← Nat.add_assoc]
          exact congrArg (· + 1) (ih (start + 1) _)
      | some rule =>
          rw [List.length_cons, List.length_cons, Nat.add_right_comm]
          exact congrArg (· + 1) (ih (start + 1) _)

end Pass

-- ============================================================== warnings

/-- Whether a notice is about an item that no rule is for. -/
def Notice.isUnmatchedItem : Notice → Bool
  | .unmatchedItem .. => true
  | _ => false

namespace Pass

/-- The notices so far about items that no rule is for. -/
def unmatchedNotices (p : Pass) : List Notice :=
  p.notices.filter Notice.isUnmatchedItem

/-- Render functions cannot give such a notice. -/
theorem unmatchedNotices_renderItem (p : Pass) (rule : Rule)
    (bound attrs item : Props) (index : Nat) :
    (p.renderItem rule bound attrs item index).2.unmatchedNotices
      = p.unmatchedNotices := by
  have hoffers : ∀ (events : List Event) (q : Pass),
      (q.offerAll events).unmatchedNotices = q.unmatchedNotices := by
    intro events
    induction events with
    | nil => intro q; rfl
    | cons e rest ih =>
        intro q
        refine (ih (q.offer e)).trans ?_
        cases h : q.emitter.isDeclared e.name with
        | true => rw [offer_declared h]; rfl
        | false =>
            rw [offer_undeclared h]
            unfold unmatchedNotices
            rw [List.filter_append]
            exact List.append_nil _
  rw [renderItem_eq_offerAll, hoffers]
  rfl

/-- A notice is the warning about a position in a list that starts at a
position: it names the position and the keys of the item there. -/
def WarnsOf (start : Nat) (data : List Props) (position : Nat)
    (notice : Notice) : Prop :=
  ∃ before item after, data = before ++ item :: after
    ∧ position = start + before.length
    ∧ notice = .unmatchedItem position item.keys
    ∧ notice.level = .warn

theorem WarnsOf.cons {start : Nat} {data : List Props} {position : Nat}
    {notice : Notice} (h : WarnsOf (start + 1) data position notice)
    (item : Props) : WarnsOf start (item :: data) position notice := by
  obtain ⟨before, other, after, hdata, hposition, hnotice⟩ := h
  refine ⟨item :: before, other, after, ?_, ?_, hnotice⟩
  · rw [hdata, List.cons_append]
  · rw [hposition, List.length_cons]
    omega

/-- Every reported position has one warning, in order. -/
theorem unmatchedNotices_renderFrom (registry : Registry)
    (bound attrs : Props) (data : List Props) :
    ∀ (start : Nat) (p : Pass), ∃ told,
      (renderFrom registry bound attrs start data p).2.2.unmatchedNotices
          = p.unmatchedNotices ++ told
        ∧ List.Forall₂ (WarnsOf start data)
          (registry.unmatchedFrom start data) told := by
  induction data with
  | nil =>
      intro start p
      exact ⟨[], (List.append_nil _).symm, .nil⟩
  | cons item rest ih =>
      intro start p
      unfold Registry.unmatchedFrom
      simp only [renderFrom]
      cases registry.select? item with
      | none =>
          obtain ⟨told, hnotices, htold⟩ := ih (start + 1) { p with
            notices := p.notices ++ [.unmatchedItem start item.keys] }
          refine ⟨.unmatchedItem start item.keys :: told, ?_, ?_⟩
          · refine hnotices.trans ?_
            unfold unmatchedNotices
            rw [List.filter_append, List.append_assoc]
            rfl
          · exact .cons ⟨[], item, rest, rfl, rfl, rfl, rfl⟩
              (htold.imp fun k n h => h.cons item)
      | some rule =>
          obtain ⟨told, hnotices, htold⟩ := ih (start + 1)
            (p.renderItem rule bound attrs item start).2
          rw [unmatchedNotices_renderItem] at hnotices
          exact ⟨told, hnotices, htold.imp fun k n h => h.cons item⟩

end Pass

-- =========================================================== main result

/-- A pass over a list of items whose first one stands at position
`start`; a whole list starts at 0 (`Pass.renderItems`).

The positions that it reports increase strictly and are those of the
items that no rule is for; such an item leaves everything as it was, but
for its warning. Every other position has one node, in the order of the
list: what the rule for the item renders it to, in what the items before
have left, with the position as ordinal, both as an argument and among
the properties. Every reported position has one warning, in order, with
the position and the keys of the item. However the list is cut, the pass
is the pass over the first part followed by the pass over the second
part, counted on and in the state that the first left.

A render pass of an instance is such a pass over its items, from 0, with
the globals and the queue that the instance has, and leaves the instance
the globals and the queue that the pass leaves. Globals that are shared
live in a cell, which has to be there. -/
theorem pass_renders_in_order (registry : Registry) (bound attrs : Props)
    (start : Nat) (data : List Props) (p : Pass) :
    let run := Pass.renderFrom registry bound attrs
    let nodes := (run start data p).1
    let unmatched := (run start data p).2.1
    let left := (run start data p).2.2
    unmatched.Pairwise (· < ·)
    ∧ (∀ k, k ∈ unmatched ↔ ∃ before item after,
        data = before ++ item :: after ∧ k = start + before.length
          ∧ registry.Declines item)
    ∧ (∀ before item, registry.Declines item →
        let q := Pass.leftBy registry bound attrs start before p
        Pass.leftBy registry bound attrs start (before ++ [item]) p
          = { q with notices := q.notices
              ++ [.unmatchedItem (start + before.length) item.keys] })
    ∧ List.Forall₂
        (Pass.RendersAt registry bound attrs start data p)
        ((List.range' start data.length).filter fun k => k ∉ unmatched)
        nodes
    ∧ (∀ (rule : Rule) (item : Props) (k : Nat),
        (rule.resolve bound item k).get? ordinalName = some (.int k))
    ∧ nodes.length + unmatched.length = data.length
    ∧ (∃ told, left.unmatchedNotices = p.unmatchedNotices ++ told
        ∧ List.Forall₂ (Pass.WarnsOf start data) unmatched told)
    ∧ (∀ xs ys, data = xs ++ ys →
        let first := run start xs p
        let second := run (start + xs.length) ys first.2.2
        run start data p
          = (first.1 ++ second.1, first.2.1 ++ second.2.1, second.2.2))
    ∧ ∀ (i : Instance) (a : Ambient),
        let out := Pass.renderItems i.definition.registry i.bound i.attrs
          i.data (.start (i.readGlobals a) i.emitter)
        (i.renderPass a).1.anonymous
            = RenderOutput.anonymous ⟨i.definition.config.container.wrap
                out.1 (forwardedProps i.bound i.attrs), out.2.1⟩
          ∧ (i.renderPass a).2.1.emitter = out.2.2.emitter
          ∧ ((∀ cell, i.globals = .shared cell →
              cell < a.cells.maps.length) →
            (i.renderPass a).2.1.readGlobals (i.renderPass a).2.2
              = out.2.2.globals)
          ∧ (i.renderPass a).2.2.notices
            = a.notices ++ out.2.2.notices := by
  intro run nodes unmatched left
  have hunmatched : unmatched = registry.unmatchedFrom start data :=
    Pass.unmatched_renderFrom registry bound attrs data start p
  refine ⟨?_, fun k => ?_,
    fun before item h => Pass.leftBy_declined h start before p, ?_,
    fun rule item k => ?_,
    Pass.length_renderFrom data start p, ?_, ?_, fun i a =>
      ⟨i.anonymous_renderPass a, i.renderPass_emitter a,
        i.readGlobals_renderPass a, ?_⟩⟩
  · rw [hunmatched]
    exact List.Pairwise.sublist
      (registry.unmatchedFrom_sublist data start) List.pairwise_lt_range'
  · rw [hunmatched]
    exact registry.mem_unmatchedFrom data start k
  · rw [hunmatched]
    exact Pass.rendersAt_renderFrom data start p
  · unfold Rule.resolve
    rw [OrdMap.get?_insert, if_pos rfl]
  · obtain ⟨told, hnotices, htold⟩ :=
      Pass.unmatchedNotices_renderFrom registry bound attrs data start p
    rw [← hunmatched] at htold
    exact ⟨told, hnotices, htold⟩
  · rintro xs ys rfl
    exact Pass.renderFrom_append xs ys start p
  · unfold Instance.renderPass Instance.writeGlobals
    cases i.globals <;> rfl

end RuledList
