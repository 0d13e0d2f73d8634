/-
Mounted instances do not interfere. Whatever is done to one instance,
another one never notices, unless both come from one functional
component; and then what they share is the globals map and nothing else
(`instances_do_not_interfere`).

# Two sessions at once

The first half is about two sessions: one as it is, and one from which
every command addressed to a variable `b` has been taken out
(`without`). `Erased K a b s t` relates their states. `K` is the set of
cells that components mounted into `b` share. Outside of `K` the shared
globals agree, and so do the instances that share no cell of `K`; what
`b` names shares no other cells, and what `a` names none of them. An
instance that is neither may differ in the two sessions, because it
shares a map with `b`; the relation says nothing about it, and it cannot
tell `a` about it either.

A command to `b` keeps the relation when only the first session executes
it (`Erased.skip`), any other command when both do (`Erased.step`), and
a command to `a` is then answered alike (`Erased.reply`).

# Why names do not matter

Taking out mounts renumbers the names that are given out later, and
taking out render passes the handles of later references. Answers are
therefore compared without either (`Reply.anonymous`).
-/
import RuledList.Proofs.Host.Session
import RuledList.Proofs.Instance.Run

namespace RuledList

variable {defined : List Definition}

-- ================================================== what commands touch

/-- An instance shares a cell of a set. -/
def Instance.SharesIn (K : Nat → Prop) (i : Instance) : Prop :=
  ∃ cell, i.cell? = some cell ∧ K cell

namespace Command

/-- A command mounts a component that shares a cell into a variable. -/
def Uses (defined : List Definition) (command : Command) (x cell : Nat) :
    Prop :=
  ∃ component passed d, command = .mount x component passed
    ∧ defined[component]? = some d ∧ d.cell? = some cell

/-- A mount comes to no change, or to a new instance, whoever the
variable named before. -/
theorem act_mount (defined : List Definition) (x component : Nat)
    (passed : Props) :
    (∃ reply, ∀ i? a, act defined i? a (.mount x component passed)
        = ⟨reply, i?, a.cells⟩)
      ∨ ∃ d data, defined[component]? = some d ∧
        ∀ i? a, act defined i? a (.mount x component passed)
          = ⟨.mounted (.ok .null),
              some (.mounted component d passed data), a.cells⟩ := by
  cases hd : defined[component]? with
  | none => exact .inl ⟨.undefined, fun i? a => by simp only [act, hd]⟩
  | some d =>
      cases hp : passedItems passed with
      | error e =>
          exact .inl ⟨.mounted (.error (.binding e)), fun i? a => by
            simp only [act, hd, hp]⟩
      | ok data =>
          exact .inr ⟨d, data, rfl, fun i? a => by
            simp only [act, hd, hp]⟩

/-- After a command the variable names kin of the instance that it named
before, a new instance, or nobody. -/
theorem act_left {i? : Option Instance} {a : Ambient} {command : Command}
    {j : Instance} (h : (command.act defined i? a).left? = some j) :
    (∃ i, i? = some i ∧ j.Kin i)
      ∨ ∃ x component passed d data,
        command = .mount x component passed
          ∧ defined[component]? = some d
          ∧ j = .mounted component d passed data := by
  cases command with
  | mount x component passed =>
      rcases act_mount defined x component passed with
        ⟨reply, hact⟩ | ⟨d, data, hd, hact⟩
      · rw [hact] at h
        exact .inl ⟨j, h, .refl j⟩
      · rw [hact] at h
        cases h
        exact .inr ⟨x, component, passed, d, data, rfl, hd, rfl⟩
  | ask x r =>
      cases i? with
      | none => cases h
      | some i => exact .inl ⟨i, rfl, (r.serve_frame i a).1 j h⟩
  | clear => cases h
  | drainLog => exact .inl ⟨j, h, .refl j⟩

/-- A command writes to no cell but the one of the addressed
instance. -/
theorem act_frame (defined : List Definition) (i? : Option Instance)
    (a : Ambient) (command : Command) {cell : Nat}
    (h : ∀ i, i? = some i → i.cell? ≠ some cell) :
    (command.act defined i? a).cells.map? cell = a.cells.map? cell := by
  cases command with
  | mount x component passed =>
      rcases act_mount defined x component passed with
        ⟨reply, hact⟩ | ⟨d, data, hd, hact⟩
      · rw [hact]
      · rw [hact]
  | ask x r =>
      cases i? with
      | none => rfl
      | some i => exact (r.serve_frame i a).2 cell (h i rfl)
  | clear => rfl
  | drainLog => rfl

/-- In surroundings that agree about the cell of the addressed instance,
a command is answered alike. -/
theorem act_alike {i? : Option Instance} {a b : Ambient}
    (h : ∀ i cell, i? = some i → i.cell? = some cell →
      a.cells.map? cell = b.cells.map? cell) (command : Command) :
    (command.act defined i? a).reply.anonymous
      = (command.act defined i? b).reply.anonymous := by
  cases command with
  | mount x component passed =>
      rcases act_mount defined x component passed with
        ⟨reply, hact⟩ | ⟨d, data, hd, hact⟩
      · rw [hact, hact]
      · rw [hact, hact]
  | ask x r =>
      cases i? with
      | none => rfl
      | some i => exact (Request.serve_alike (fun cell => h i cell rfl) r).1
  | clear => rfl
  | drainLog => rfl

/-- A request to an instance that shares a cell of a set, or to nobody,
writes to no cell outside of the set, and leaves such an instance or
nobody. -/
theorem ask_hidden {K : Nat → Prop} {i? : Option Instance}
    (h : ∀ i, i? = some i → i.SharesIn K) (a : Ambient) (x : Nat)
    (r : Request) :
    let out := Command.act defined i? a (.ask x r)
    (∀ cell, ¬ K cell → out.cells.map? cell = a.cells.map? cell)
      ∧ ∀ j, out.left? = some j → j.SharesIn K := by
  cases i? with
  | none => exact ⟨fun _ _ => rfl, fun j hj => nomatch hj⟩
  | some i =>
      obtain ⟨shared, hshared, hin⟩ := h i rfl
      obtain ⟨hkin, hcells⟩ := r.serve_frame i a
      refine ⟨fun cell hK => hcells cell fun heq => ?_,
        fun j hj => ⟨shared, (hkin j hj).cell?.trans hshared, hin⟩⟩
      rw [hshared] at heq
      cases heq
      exact hK hin

/-- Outside of a set of cells, a command comes to the same for
instances and surroundings that agree outside of the set. -/
theorem act_agree (defined : List Definition) {K : Nat → Prop}
    {i? j? : Option Instance} {a b : Ambient}
    (hcells : ∀ cell, ¬ K cell →
      a.cells.map? cell = b.cells.map? cell)
    (hheld : ∀ i : Instance, ¬ i.SharesIn K →
      (i? = some i ↔ j? = some i)) (command : Command) :
    let out := command.act defined i? a
    let out' := command.act defined j? b
    (∀ cell, ¬ K cell → out.cells.map? cell = out'.cells.map? cell)
      ∧ ∀ i : Instance, ¬ i.SharesIn K →
        (out.left? = some i ↔ out'.left? = some i) := by
  cases command with
  | mount x component passed =>
      rcases act_mount defined x component passed with
        ⟨reply, hact⟩ | ⟨d, data, hd, hact⟩
      · rw [hact, hact]
        exact ⟨hcells, hheld⟩
      · rw [hact, hact]
        exact ⟨hcells, fun _ _ => Iff.rfl⟩
  | clear => exact ⟨hcells, fun _ _ => Iff.rfl⟩
  | drainLog => exact ⟨hcells, hheld⟩
  | ask x r =>
      by_cases hclear : ∃ i, i? = some i ∧ ¬ i.SharesIn K
      · -- both sessions have the instance, and serve it alike
        obtain ⟨i, rfl, hi⟩ := hclear
        have hj := (hheld i hi).1 rfl
        subst hj
        have hsame : ∀ cell, i.cell? = some cell →
            a.cells.map? cell = b.cells.map? cell := fun cell hcell =>
          hcells cell fun hK => hi ⟨cell, hcell, hK⟩
        obtain ⟨-, hleft, hshared⟩ := Request.serve_alike hsame r
        refine ⟨fun cell hK => ?_, fun j _ => ?_⟩
        · by_cases hcell : i.cell? = some cell
          · exact hshared cell hcell
          · exact ((r.serve_frame i a).2 cell hcell).trans
              ((hcells cell hK).trans
                ((r.serve_frame i b).2 cell hcell).symm)
        · show (r.serve i a).left? = _ ↔ (r.serve i b).left? = _
          rw [hleft]
      · -- what is served, if anything, shares a cell of the set
        have hi : ∀ i, i? = some i → i.SharesIn K := fun i h =>
          Classical.byContradiction fun hn => hclear ⟨i, h, hn⟩
        have hj : ∀ j, j? = some j → j.SharesIn K := fun j h =>
          Classical.byContradiction fun hn =>
            hclear ⟨j, (hheld j hn).2 h, hn⟩
        obtain ⟨hcells₁, hleft₁⟩ := ask_hidden hi a x r
        obtain ⟨hcells₂, hleft₂⟩ := ask_hidden hj b x r
        refine ⟨fun cell hK => ?_, fun k hk => ?_⟩
        · exact (hcells₁ cell hK).trans
            ((hcells cell hK).trans (hcells₂ cell hK).symm)
        · exact ⟨fun h => absurd (hleft₁ k h) hk,
            fun h => absurd (hleft₂ k h) hk⟩

end Command

-- ==================================================== what stays true

namespace Session

/-- The instance that a variable names, if any, has a property. -/
def Holds (s : Session) (x : Nat) (P : Instance → Prop) : Prop :=
  ∀ i, s.instance? x = some i → P i

/-- A property that kin share, and that what is mounted into a variable
has, stays true of whom the variable names. -/
theorem Holds.step {s : Session} (hs : s.Sound) {x : Nat}
    {P : Instance → Prop} (h : s.Holds x P)
    (hkin : ∀ i j : Instance, j.Kin i → P i → P j) {command : Command}
    (hmount : ∀ component passed d data,
      command = .mount x component passed →
        defined[component]? = some d →
        P (.mounted component d passed data)) :
    (s.step defined command).2.Holds x P := by
  intro j hj
  cases htarget : command.target? with
  | none =>
      rw [(step_free defined hs htarget).1 x] at hj
      rcases Command.act_left hj with
        ⟨i, hi, hij⟩ | ⟨y, component, passed, d, data, rfl, -⟩
      · exact hkin i j hij (h i hi)
      · cases htarget
  | some y =>
      obtain ⟨-, hself, -, hother, -⟩ := step_held defined hs htarget
      by_cases hxy : x = y
      · subst hxy
        rw [hself] at hj
        rcases Command.act_left hj with
          ⟨i, hi, hij⟩ | ⟨z, component, passed, d, data, rfl, hd, rfl⟩
        · exact hkin i j hij (h i hi)
        · cases htarget
          exact hmount component passed d data rfl hd
      · rw [hother x hxy] at hj
        exact h j hj

/-- A property that holds of nobody: a variable that names nobody names
nobody until something is mounted into it. -/
theorem vacant_finish {x : Nat} (commands : List Command)
    (hno : ∀ command ∈ commands, ∀ component passed,
      command ≠ .mount x component passed) :
    ∀ {s : Session}, s.Sound → s.instance? x = none →
      (s.finish defined commands).instance? x = none := by
  induction commands with
  | nil => intro s _ h; exact h
  | cons command rest ih =>
      intro s hs h
      have hstep : (s.step defined command).2.Holds x fun _ => False := by
        refine Holds.step hs (fun i hi => ?_) (fun _ _ _ hi => hi)
          fun component passed d data hc => ?_
        · rw [h] at hi
          cases hi
        · exact absurd hc
            (hno command List.mem_cons_self component passed)
      refine ih (fun c hc => hno c (List.mem_cons_of_mem command hc))
        (hs.step defined command) ?_
      cases hi : (s.step defined command).2.instance? x with
      | none => rfl
      | some i => exact (hstep i hi).elim

/-- An instance is what a defined component mounts to, as far as its
origin goes. -/
structure Genuine (defined : List Definition) (i : Instance) : Prop where
  definition : defined[i.component]? = some i.definition
  cell? : i.cell? = i.definition.cell?

theorem genuine_finish (commands : List Command) :
    ∀ {s : Session}, s.Sound → (∀ x, s.Holds x (Genuine defined)) →
      ∀ x, (s.finish defined commands).Holds x (Genuine defined) := by
  induction commands with
  | nil => intro s _ h; exact h
  | cons command rest ih =>
      intro s hs h
      refine ih (hs.step defined command) fun x => ?_
      refine (h x).step hs (fun i j hij hi => ?_)
        fun component passed d data _ hd => ?_
      · refine ⟨?_, ?_⟩
        · rw [hij.component, hij.definition]
          exact hi.definition
        · rw [hij.cell?, hij.definition]
          exact hi.cell?
      · exact ⟨hd, Instance.cell?_mounted component d passed data⟩

/-- The instance that a variable names shares cells of a set at most. -/
def Confined (s : Session) (x : Nat) (P : Nat → Prop) : Prop :=
  s.Holds x fun i => ∀ cell, i.cell? = some cell → P cell

/-- A variable stays confined to a set if what is mounted into it shares
cells of the set at most. -/
theorem Confined.step {s : Session} (hs : s.Sound) {x : Nat}
    {P : Nat → Prop} (h : s.Confined x P) {command : Command}
    (hmount : ∀ cell, command.Uses defined x cell → P cell) :
    (s.step defined command).2.Confined x P := by
  refine Holds.step hs h (fun i j hij hi cell hcell => ?_)
    fun component passed d data hc hd cell hcell => ?_
  · rw [hij.cell?] at hcell
    exact hi cell hcell
  · rw [Instance.cell?_mounted] at hcell
    exact hmount cell ⟨component, passed, d, hc, hd, hcell⟩

end Session

-- =========================================================== two sessions

/-- Take the commands addressed to a variable out of a list. -/
def without (b : Nat) (commands : List Command) : List Command :=
  commands.filter fun command => command.target? != some b

/-- The second session is the first one without `b`, as far as what
shares no cell of `K` can tell; `a` is such. -/
structure Erased (K : Nat → Prop) (a b : Nat) (s t : Session) : Prop where
  soundFull : s.Sound
  soundRest : t.Sound
  cells : ∀ cell, ¬ K cell → s.cells.map? cell = t.cells.map? cell
  held : ∀ x, x ≠ b → ∀ i : Instance, ¬ i.SharesIn K →
    (s.instance? x = some i ↔ t.instance? x = some i)
  inside : s.Confined b K
  outsideFull : s.Confined a fun cell => ¬ K cell
  outsideRest : t.Confined a fun cell => ¬ K cell

namespace Erased

variable {K : Nat → Prop} {a b : Nat} {s t : Session}

theorem start (K : Nat → Prop) (a b : Nat) (around : Ambient) :
    Erased K a b (.start around) (.start around) where
  soundFull := Session.sound_start around
  soundRest := Session.sound_start around
  cells _ _ := rfl
  held _ _ _ _ := Iff.rfl
  inside _ h := nomatch h
  outsideFull _ h := nomatch h
  outsideRest _ h := nomatch h

/-- In both sessions `a` names the same instance. -/
theorem instance?_eq (h : Erased K a b s t) (hne : a ≠ b) :
    s.instance? a = t.instance? a := by
  have hclear : ∀ {r : Session}, r.Confined a (fun cell => ¬ K cell) →
      ∀ i, r.instance? a = some i → ¬ i.SharesIn K := by
    rintro r hr i hi ⟨cell, hcell, hK⟩
    exact hr i hi cell hcell hK
  cases hs : s.instance? a with
  | some i =>
      exact ((h.held a hne i (hclear h.outsideFull i hs)).1 hs).symm
  | none =>
      cases ht : t.instance? a with
      | none => rfl
      | some j =>
          have hj := (h.held a hne j (hclear h.outsideRest j ht)).2 ht
          rw [hs] at hj
          cases hj

theorem cell_eq (h : Erased K a b s t) :
    ∀ i cell, s.instance? a = some i → i.cell? = some cell →
      s.cells.map? cell = t.cells.map? cell :=
  fun i cell hi hcell => h.cells cell (h.outsideFull i hi cell hcell)

theorem globals?_eq (h : Erased K a b s t) (hne : a ≠ b) :
    s.globals? a = t.globals? a := by
  unfold Session.globals?
  rw [← h.instance?_eq hne]
  cases hi : s.instance? a with
  | none => rfl
  | some i =>
      exact congrArg some
        (Instance.readGlobals_congr fun cell => h.cell_eq i cell hi)

/-- A command to `a` is answered alike in both sessions. -/
theorem reply (h : Erased K a b s t) (hne : a ≠ b) {command : Command}
    (ha : command.target? = some a) :
    (s.step defined command).1.anonymous
      = (t.step defined command).1.anonymous := by
  rw [(Session.step_held defined h.soundFull ha).1,
    (Session.step_held defined h.soundRest ha).1, ← h.instance?_eq hne]
  exact Command.act_alike h.cell_eq command

/-- A command to `b` that only the first session executes keeps them
alike. -/
theorem skip (h : Erased K a b s t) (hne : a ≠ b) {command : Command}
    (hb : command.target? = some b)
    (hin : ∀ cell, command.Uses defined b cell → K cell) :
    Erased K a b (s.step defined command).2 t := by
  obtain ⟨-, -, hcells, hother, hsound⟩ :=
    Session.step_held defined h.soundFull hb
  refine ⟨hsound, h.soundRest, fun cell hK => ?_, fun x hx i hi => ?_,
    h.inside.step h.soundFull hin, fun i hi => ?_, h.outsideRest⟩
  · -- `b` writes to no cell outside of `K`
    have hframe := command.act_frame defined (s.instance? b) s.world.ambient
      fun i hi hcell => hK (h.inside i hi cell hcell)
    rw [hcells]
    exact hframe.trans (h.cells cell hK)
  · rw [hother x hx]
    exact h.held x hx i hi
  · rw [hother a hne] at hi
    exact h.outsideFull i hi

/-- Any other command that both sessions execute keeps them alike. -/
theorem step (h : Erased K a b s t) {command : Command}
    (hb : command.target? ≠ some b)
    (hout : ∀ cell, command.Uses defined a cell → ¬ K cell) :
    Erased K a b (s.step defined command).2 (t.step defined command).2 := by
  have hin : ∀ cell, command.Uses defined b cell → K cell := by
    rintro cell ⟨component, passed, d, rfl, -⟩
    exact absurd rfl hb
  have hagree : ∀ x, x ≠ b → _ := fun x hx =>
    command.act_agree defined h.cells (h.held x hx)
  refine ⟨h.soundFull.step defined command,
    h.soundRest.step defined command, ?_, ?_,
    h.inside.step h.soundFull hin, h.outsideFull.step h.soundFull hout,
    h.outsideRest.step h.soundRest hout⟩
  · intro cell hK
    cases htarget : command.target? with
    | none =>
        rw [(Session.step_free defined h.soundFull htarget).2.1,
          (Session.step_free defined h.soundRest htarget).2.1]
        exact h.cells cell hK
    | some y =>
        have hy : y ≠ b := fun hyb => hb (by rw [htarget, hyb])
        rw [(Session.step_held defined h.soundFull htarget).2.2.1,
          (Session.step_held defined h.soundRest htarget).2.2.1]
        exact (hagree y hy).1 cell hK
  · intro x hx i hi
    cases htarget : command.target? with
    | none =>
        rw [(Session.step_free defined h.soundFull htarget).1 x,
          (Session.step_free defined h.soundRest htarget).1 x]
        exact (hagree x hx).2 i hi
    | some y =>
        obtain ⟨-, hself, -, hother, -⟩ :=
          Session.step_held defined h.soundFull htarget
        obtain ⟨-, hself', -, hother', -⟩ :=
          Session.step_held defined h.soundRest htarget
        by_cases hxy : x = y
        · subst hxy
          rw [hself, hself']
          exact (hagree x hx).2 i hi
        · rw [hother x hxy, hother' x hxy]
          exact h.held x hx i hi

/-- Two sessions that are alike answer all commands to `a` alike,
whichever commands to `b` are executed in the first one only, and are
alike at the end. -/
theorem finish (hne : a ≠ b) (commands : List Command) :
    ∀ {s t : Session}, Erased K a b s t →
      (∀ command ∈ commands, ∀ cell,
        command.Uses defined b cell → K cell) →
      (∀ command ∈ commands, ∀ cell,
        command.Uses defined a cell → ¬ K cell) →
      (s.replies defined a commands).map Reply.anonymous
          = (t.replies defined a (without b commands)).map Reply.anonymous
        ∧ Erased K a b (s.finish defined commands)
          (t.finish defined (without b commands)) := by
  induction commands with
  | nil => intro s t h _ _; exact ⟨rfl, h⟩
  | cons command rest ih =>
      intro s t h hin hout
      have hin' := fun c hc => hin c (List.mem_cons_of_mem command hc)
      have hout' := fun c hc => hout c (List.mem_cons_of_mem command hc)
      have hfirst := hin command List.mem_cons_self
      by_cases hb : command.target? = some b
      · have hna : command.target? ≠ some a := by
          rw [hb]
          exact fun he => hne (Option.some.inj he).symm
        have hwithout : without b (command :: rest) = without b rest := by
          simp [without, hb]
        have hreplies : s.replies defined a (command :: rest)
            = (s.step defined command).2.replies defined a rest :=
          if_neg hna
        rw [hwithout, hreplies]
        exact ih (h.skip hne hb hfirst) hin' hout'
      · have hwithout : without b (command :: rest)
            = command :: without b rest := by
          simp [without, hb]
        obtain ⟨hreplies, hlast⟩ :=
          ih (h.step hb (hout command List.mem_cons_self)) hin' hout'
        rw [hwithout]
        refine ⟨?_, hlast⟩
        unfold Session.replies
        by_cases ha : command.target? = some a
        · simp only [if_pos ha, List.map_cons, hreplies, h.reply hne ha]
        · simp only [if_neg ha]
          exact hreplies

end Erased

-- ========================================================== main results

/-- Some functional component is mounted into both variables. -/
def Siblings (defined : List Definition) (commands : List Command)
    (a b : Nat) : Prop :=
  ∃ component d passed passed',
    .mount a component passed ∈ commands
    ∧ .mount b component passed' ∈ commands
    ∧ defined[component]? = some d ∧ d.isFunctional = true

/-- Two instances come from one functional component. -/
def Instance.Siblings (i j : Instance) : Prop :=
  i.component = j.component ∧ i.definition.isFunctional = true

/-- Genuine instances of components that are defined one after the other
share a cell exactly if they come from one functional component. -/
theorem siblings_iff {sources : List (Registry × OutputConfig)}
    {around : Ambient} {i j : Instance}
    (hi : Session.Genuine (Definition.ofAll sources around).1 i)
    (hj : Session.Genuine (Definition.ofAll sources around).1 j) :
    i.Siblings j ↔ ∃ cell, i.cell? = some cell ∧ j.cell? = some cell := by
  constructor
  · rintro ⟨hsame, hfun⟩
    have hdef : i.definition = j.definition := by
      have hboth := hi.definition
      rw [hsame, hj.definition] at hboth
      exact (Option.some.inj hboth).symm
    obtain ⟨cell, hcell⟩ := Definition.isFunctional_iff.1 hfun
    refine ⟨cell, hi.cell?.trans hcell, ?_⟩
    rw [hj.cell?, ← hdef]
    exact hcell
  · rintro ⟨cell, hci, hcj⟩
    rw [hi.cell?] at hci
    rw [hj.cell?] at hcj
    exact ⟨Definition.ofAll_cell_unique sources around hi.definition
      hj.definition hci hcj, Definition.isFunctional_iff.2 ⟨cell, hci⟩⟩

/-- If no functional component is mounted into both variables, what is
mounted into the one shares no cell with what is mounted into the
other. -/
theorem not_uses_of_not_siblings
    {sources : List (Registry × OutputConfig)} {around : Ambient}
    {commands : List Command} {a b : Nat}
    (h : ¬ Siblings (Definition.ofAll sources around).1 commands a b)
    {command command' : Command} (hc : command ∈ commands)
    (hc' : command' ∈ commands) {cell : Nat}
    (ha : command.Uses (Definition.ofAll sources around).1 a cell) :
    ¬ command'.Uses (Definition.ofAll sources around).1 b cell := by
  rintro ⟨component', passed', d', rfl, hd', hcell'⟩
  obtain ⟨component, passed, d, rfl, hd, hcell⟩ := ha
  have hsame : component = component' :=
    Definition.ofAll_cell_unique sources around hd hd' hcell hcell'
  subst hsame
  exact h ⟨component, d, passed, passed', hc, hc', hd,
    Definition.isFunctional_iff.2 ⟨cell, hcell⟩⟩

/-- A command to another variable changes the globals of an instance only
if the two instances share a cell. -/
theorem Session.globals?_step {s : Session} (hs : s.Sound) {a b : Nat}
    (hne : a ≠ b) {command : Command} (hb : command.target? = some b)
    (hshare : ∀ i j cell, s.instance? a = some i →
      s.instance? b = some j → i.cell? = some cell →
      j.cell? ≠ some cell) :
    (s.step defined command).2.globals? a = s.globals? a := by
  obtain ⟨-, -, hcells, hother, -⟩ := step_held defined hs hb
  unfold globals?
  rw [hother a hne]
  cases hi : s.instance? a with
  | none => rfl
  | some i =>
      refine congrArg some
        (Instance.readGlobals_congr fun cell hcell => ?_)
      show (s.step defined command).2.cells.map? cell = _
      rw [hcells]
      exact command.act_frame defined _ _ fun j hj =>
        hshare i j cell hi hj hcell

/-- Components are defined one after the other, and a host executes any
commands. Let `a` and `b` be two variables.

If no functional component is mounted into both, taking out all commands
to `b` changes nothing that the commands to `a` are answered, and
nothing of the instance that `a` names or of its globals.

In any case a command to `b` does not change the instance that `a` names,
and it changes its globals only if both instances come from one
functional component, when they have the same globals.

A mount makes the same instance at any time, under a name that no
variable held, and no other variable notices. A name that names nobody
names nobody for ever, whatever is mounted in its place. -/
theorem instances_do_not_interfere
    (sources : List (Registry × OutputConfig)) (around : Ambient)
    (commands : List Command) {a b : Nat} (hne : a ≠ b) :
    let defined := (Definition.ofAll sources around).1
    let begun := Session.start (Definition.ofAll sources around).2
    let full := begun.finish defined commands
    let rest := begun.finish defined (without b commands)
    (¬ Siblings defined commands a b →
      (begun.replies defined a commands).map Reply.anonymous
          = (begun.replies defined a (without b commands)).map
              Reply.anonymous
        ∧ full.instance? a = rest.instance? a
        ∧ full.globals? a = rest.globals? a)
    ∧ (∀ command, command.target? = some b →
        let after := (full.step defined command).2
        after.instance? a = full.instance? a
          ∧ ((∀ i j, full.instance? a = some i →
              full.instance? b = some j → ¬ i.Siblings j) →
            after.globals? a = full.globals? a))
    ∧ (∀ i j, full.instance? a = some i → full.instance? b = some j →
        i.Siblings j → full.globals? a = full.globals? b)
    ∧ (∀ x component passed d data, defined[component]? = some d →
        passedItems passed = .ok data →
        ∃ id t, full.step defined (.mount x component passed)
            = (.mounted (.ok id), t)
          ∧ (∀ y, full.names y ≠ id)
          ∧ t.instance? x = some (.mounted component d passed data)
          ∧ t.cells = full.cells
          ∧ ∀ y, y ≠ x → t.instance? y = full.instance? y)
    ∧ (∀ x later, full.instance? x = none →
        (∀ command ∈ later, ∀ component passed,
          command ≠ .mount x component passed) →
        (full.finish defined later).instance? x = none) := by
  intro defined begun full rest
  have hbegun : begun.Sound := Session.sound_start _
  have hfull : full.Sound :=
    Session.sound_finish defined commands hbegun
  have hgenuine : ∀ x, full.Holds x (Session.Genuine defined) :=
    Session.genuine_finish commands hbegun fun x i hi => nomatch hi
  refine ⟨fun hsiblings => ?_, fun command hb => ?_, ?_, ?_, ?_⟩
  · let K : Nat → Prop := fun cell =>
      ∃ command ∈ commands, command.Uses defined b cell
    have hin : ∀ command ∈ commands, ∀ cell,
        command.Uses defined b cell → K cell :=
      fun command hc cell huses => ⟨command, hc, huses⟩
    have hout : ∀ command ∈ commands, ∀ cell,
        command.Uses defined a cell → ¬ K cell := by
      rintro command hc cell huses ⟨command', hc', huses'⟩
      exact not_uses_of_not_siblings hsiblings hc hc' huses huses'
    obtain ⟨hreplies, hlast⟩ :=
      Erased.finish hne commands (.start K a b _) hin hout
    exact ⟨hreplies, hlast.instance?_eq hne, hlast.globals?_eq hne⟩
  · obtain ⟨-, -, -, hother, -⟩ := Session.step_held defined hfull hb
    refine ⟨hother a hne, fun hnot => ?_⟩
    refine Session.globals?_step hfull hne hb
      fun i j cell hi hj hci hcj => hnot i j hi hj ?_
    exact (siblings_iff (hgenuine a i hi) (hgenuine b j hj)).2
      ⟨cell, hci, hcj⟩
  · intro i j hi hj hsiblings
    obtain ⟨cell, hci, hcj⟩ :=
      (siblings_iff (hgenuine a i hi) (hgenuine b j hj)).1 hsiblings
    unfold Session.globals?
    rw [hi, hj, Option.map_some, Option.map_some,
      Instance.readGlobals_of_cell? hci,
      Instance.readGlobals_of_cell? hcj]
  · intro x component passed d data hd hp
    obtain ⟨id, t, hstep, hnames, hself, hcells, hother, -⟩ :=
      Session.step_mount hfull x hd hp
    exact ⟨id, t, hstep, hnames, hself, hcells, hother⟩
  · intro x later hx hno
    exact Session.vacant_finish later hno hfull hx

/-- The gauge twice: with globals of its own, and functional. -/
def gaugeSources : List (Registry × OutputConfig) :=
  [(⟨[gaugeRule]⟩, { OutputConfig.standard with container := .none }),
    (⟨[gaugeRule]⟩, { OutputConfig.standard with functional := true })]

/-- Two gauges at work side by side; the second one is unmounted and
mounted again meanwhile. -/
def gaugeCommands : List Command :=
  [.mount 0 0 (gaugeProps 1), .mount 1 1 (gaugeProps 5),
    .ask 1 .renderPass, .ask 0 .renderPass, .ask 1 .unmount,
    .mount 1 1 (gaugeProps 7), .ask 0 .syncBindings, .ask 1 .renderPass,
    .ask 0 .render]

/-- The first gauge is answered four times, the same with and without
the second one. -/
theorem gauges_do_not_interfere :
    let defined := (Definition.ofAll gaugeSources .start).1
    let begun := Session.start (Definition.ofAll gaugeSources .start).2
    (0 : Nat) ≠ 1 ∧ ¬ Siblings defined gaugeCommands 0 1
      ∧ (begun.replies defined 0 gaugeCommands).map Reply.anonymous
        = (begun.replies defined 0 (without 1 gaugeCommands)).map
            Reply.anonymous
      ∧ (begun.replies defined 0 gaugeCommands).length = 4 := by
  intro defined begun
  have hne : (0 : Nat) ≠ 1 := by decide
  have hnot : ¬ Siblings defined gaugeCommands 0 1 := by
    rintro ⟨component, d, passed, passed', ha, -, hd, hfun⟩
    have hcomponent : component = 0 := by
      simp only [gaugeCommands, List.mem_cons, Command.mount.injEq,
        reduceCtorEq, List.not_mem_nil, false_and, or_false] at ha
      exact ha.2.1
    subst hcomponent
    have hfirst : defined[0]?.map Definition.isFunctional
        = some false := rfl
    rw [hd, Option.map_some, hfun] at hfirst
    cases hfirst
  exact ⟨hne, hnot,
    ((instances_do_not_interfere gaugeSources .start gaugeCommands
      hne).1 hnot).1, by decide +kernel⟩

end RuledList
