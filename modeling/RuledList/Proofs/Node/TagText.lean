/-
What stands in a tag says which tag it is. Nothing in a tag is escaped, so
the argument is about where each part ends. A name ends at the first
character that no name holds (`Legible`), a bare value at the first blank
or angle bracket, a string at the first quote; and the attributes end
where a blank is followed by no name. Texts that agree from their
beginning on therefore have the same parts (`tagText_inj`), the last of
which tells whether the tag closes itself.

The values are those that a markup shows whole (`Value.Plain`): strings
without quotes, whose own quotes keep them apart from the numbers and
words that they may spell, and the values that no string is part of.
Binary64 numbers are left out, and so are arrays and objects, whose texts
may hold blanks and brackets.
-/
import Mathlib.Data.List.Nodup
import Mathlib.Data.List.TakeWhile
import RuledList.Node.Markup
import RuledList.View.Token.Lexer

namespace RuledList

-- ================================================================= runs

/-- Whether characters that `p` accepts end before a text. -/
def EndsRun (p : Char → Bool) (cs : List Char) : Prop :=
  ∀ c ∈ cs.head?, p c = false

theorem endsRun_cons {p : Char → Bool} {c : Char} (h : p c = false)
    (cs : List Char) : EndsRun p (c :: cs) := by
  intro d hd
  cases hd
  exact h

theorem takeWhile_run {p : Char → Bool} {run rest : List Char}
    (hrun : ∀ c ∈ run, p c = true) (hrest : EndsRun p rest) :
    (run ++ rest).takeWhile p = run := by
  have hnone : rest.takeWhile p = [] := by
    cases rest with
    | nil => rfl
    | cons c rest => simp [hrest c rfl]
  rw [List.takeWhile_append_of_pos hrun, hnone, List.append_nil]

/-- A run of accepted characters ends where the first other character
stands, so a text begins with one run only. -/
theorem run_inj {p : Char → Bool} {a b r s : List Char}
    (ha : ∀ c ∈ a, p c = true) (hb : ∀ c ∈ b, p c = true)
    (hr : EndsRun p r) (hs : EndsRun p s) (h : a ++ r = b ++ s) :
    a = b ∧ r = s := by
  have hab : a = b := by rw [← takeWhile_run ha hr, h, takeWhile_run hb hs]
  exact ⟨hab, List.append_cancel_left (hab ▸ h)⟩

/-- Whether a text begins with what may follow a tag name or a value. -/
def EndsPart (cs : List Char) : Prop :=
  cs.head? = some ' ' ∨ cs.head? = some '>'

theorem EndsPart.endsRun {p : Char → Bool} {cs : List Char}
    (h : EndsPart cs) (hblank : p ' ' = false) (hclose : p '>' = false) :
    EndsRun p cs := by
  intro c hc
  obtain h | h := h <;> rw [h] at hc <;> cases hc
  · exact hblank
  · exact hclose

-- ================================================================ names

/-- Whether a character can be part of a name in a tag. -/
def isNameChar (c : Char) : Bool :=
  !([' ', '\n', '=', '/', '>'].contains c)

/-- Whether a tag or an attribute name can be told from what follows it
in a tag. -/
def Legible (name : String) : Prop :=
  ∀ c ∈ name.toList, isNameChar c = true

/-- Whether a text is an identifier and nothing else, as the tokens of a
view have it: with or without a raw mark, a keyword or not. -/
def IsIdentifier (name : String) : Prop :=
  ∃ token, View.anyIdent? name.toList = some (token, [])

theorem isNameChar_of_continue {c : Char}
    (h : View.isIdentContinue c = true) : isNameChar c = true := by
  have hends : [' ', '\n', '=', '/', '>'].all
      (fun d => !View.isIdentContinue d) = true := by decide
  rw [isNameChar, Bool.not_eq_true', Bool.eq_false_iff]
  intro hin
  have hnot := List.all_eq_true.1 hends c (List.contains_iff_mem.1 hin)
  rw [h] at hnot
  cases hnot

theorem isNameChar_of_plainIdent? {cs name : List Char}
    (h : View.plainIdent? cs = some (name, [])) :
    ∀ c ∈ cs, isNameChar c = true := by
  cases cs with
  | nil => cases h
  | cons first rest =>
      rw [View.plainIdent?] at h
      split at h
      · next hstart =>
        injection h with h
        have hall : rest.dropWhile View.isIdentContinue = [] :=
          congrArg Prod.snd h
        rw [List.dropWhile_eq_nil_iff] at hall
        refine List.forall_mem_cons.2 ⟨?_, fun c hc => ?_⟩
        · exact isNameChar_of_continue
            (View.isIdentContinue_of_start hstart)
        · exact isNameChar_of_continue (hall c hc)
      · cases h

/-- Identifiers are legible. -/
theorem legible_of_identifier {name : String} (h : IsIdentifier name) :
    Legible name := by
  obtain ⟨token, h⟩ := h
  unfold View.anyIdent? at h
  split at h
  · next hraw =>
    -- behind the raw mark stands an identifier without one
    obtain ⟨word, hword⟩ := List.isPrefixOf_iff_prefix.1 hraw
    have hdrop : name.toList.drop 2 = word := by
      rw [← hword]
      rfl
    rw [hdrop] at h
    unfold Legible
    rw [← hword]
    refine List.forall_mem_append.2 ⟨List.all_eq_true.1 (by decide), ?_⟩
    cases hplain : View.plainIdent? word with
    | none => rw [hplain] at h; cases h
    | some found =>
        obtain ⟨letters, rest⟩ := found
        rw [hplain] at h
        dsimp only at h
        split at h
        · cases h
        · injection h with h
          obtain rfl : rest = [] := congrArg Prod.snd h
          exact isNameChar_of_plainIdent? hplain
  · obtain ⟨⟨letters, rest⟩, hplain, h⟩ := Option.map_eq_some_iff.1 h
    obtain rfl : rest = [] := congrArg Prod.snd h
    exact isNameChar_of_plainIdent? hplain

-- ============================================================= integers

theorem isDigit_of_mem_digits {n : Nat} {c : Char}
    (h : c ∈ (Number.decimalDigits n).toList) : c.isDigit = true := by
  rw [Number.decimalDigits, String.toList_ofList] at h
  exact Nat.isDigit_of_mem_toDigits (by decide) (by decide) h

/-- The text of an integer is a run of minus signs, at most one long, and
then its digits. -/
theorem toList_intText (n : Int) :
    (Number.intText n).toList = (if n < 0 then ['-'] else [])
      ++ (Number.decimalDigits n.natAbs).toList := by
  rw [Number.intText, String.toList_append]
  split <;> rfl

theorem mem_intText {n : Int} {c : Char}
    (h : c ∈ (Number.intText n).toList) : c = '-' ∨ c.isDigit = true := by
  rw [toList_intText, List.mem_append] at h
  rcases h with h | h
  · split at h
    · exact .inl (List.mem_singleton.1 h)
    · cases h
  · exact .inr (isDigit_of_mem_digits h)

/-- The text of an integer says which integer it is. -/
theorem intText_inj {m n : Int} (h : Number.intText m = Number.intText n) :
    m = n := by
  have hsign : ∀ k : Int, ∀ c ∈ (if k < 0 then ['-'] else []),
      (c == '-') = true := by
    intro k c hc
    split at hc
    · exact beq_iff_eq.2 (List.mem_singleton.1 hc)
    · cases hc
  have hends : ∀ k : Nat,
      EndsRun (· == '-') (Number.decimalDigits k).toList := by
    intro k c hc
    have hdigit := isDigit_of_mem_digits (List.mem_of_mem_head? hc)
    refine beq_false_of_ne fun hminus => ?_
    rw [hminus] at hdigit
    cases hdigit
  have hchars := congrArg String.toList h
  rw [toList_intText, toList_intText] at hchars
  obtain ⟨hsigns, hdigits⟩ :=
    run_inj (hsign m) (hsign n) (hends _) (hends _) hchars
  have habs : m.natAbs = n.natAbs := by
    rw [String.toList_inj, Number.decimalDigits, Number.decimalDigits,
      String.ofList_inj] at hdigits
    rw [← Nat.ofDigitChars_ten_toDigits (n := m.natAbs), hdigits,
      Nat.ofDigitChars_ten_toDigits]
  have hneg : m < 0 ↔ n < 0 := by
    constructor <;> intro hlt <;> by_contra hle <;> simp [hlt, hle] at hsigns
  omega

-- =============================================================== values

/-- Whether a character can be part of a value without quotes. -/
def isBareChar (c : Char) : Bool := c == '-' || c.isAlphanum

namespace Value

/-- What stands behind the equals sign of an attribute. -/
def shownText : Value → String
  | .string s => "\"" ++ s ++ "\""
  | v => v.text

/-- Whether the markup shows a value whole. -/
def Plain : Value → Prop
  | .null => True
  | .bool _ => True
  | .number (.int _) => True
  | .string s => '"' ∉ s.toList ∧ '\n' ∉ s.toList
  | _ => False

/-- The values that are shown as words. -/
def words : List Value := [.null, .bool true, .bool false]

/-- Whether a plain value is shown without quotes. -/
def Bare (v : Value) : Prop := v ∈ words ∨ ∃ n, v = .int n

theorem bare_or_string {v : Value} (h : v.Plain) :
    v.Bare ∨ ∃ s, v = .string s ∧ '"' ∉ s.toList ∧ '\n' ∉ s.toList := by
  unfold Plain at h
  split at h
  · exact .inl (.inl (by simp [words]))
  · next b => exact .inl (.inl (by cases b <;> simp [words]))
  · exact .inl (.inr ⟨_, rfl⟩)
  · exact .inr ⟨_, rfl, h⟩
  · cases h

theorem toList_shownText_string (s : String) :
    (string s).shownText.toList = '"' :: (s.toList ++ ['"']) := by
  simp [shownText]

theorem isBareChar_of_mem_shownText {v : Value} (h : v.Bare) :
    ∀ c ∈ v.shownText.toList, isBareChar c = true := by
  have hwords : words.all (fun w => w.shownText.toList.all isBareChar)
      = true := by decide
  obtain h | ⟨n, rfl⟩ := h
  · exact List.all_eq_true.1 (List.all_eq_true.1 hwords v h)
  · intro c hc
    obtain rfl | hdigit := mem_intText hc
    · rfl
    · simp [isBareChar, Char.isAlphanum, hdigit]

/-- No integer is spelled like a word. -/
theorem shownText_int_ne (n : Int) {w : Value} (h : w ∈ words) :
    (int n).shownText ≠ w.shownText := by
  have hletter : words.all (fun w => w.shownText.toList.any fun c =>
      !(c == '-' || c.isDigit)) = true := by decide
  obtain ⟨c, hc, hother⟩ :=
    List.any_eq_true.1 (List.all_eq_true.1 hletter w h)
  intro heq
  rw [← heq] at hc
  rcases mem_intText hc with hin | hin <;> simp [hin] at hother

/-- Values without quotes are told apart by their texts. -/
theorem shownText_inj {v w : Value} (hv : v.Bare) (hw : w.Bare)
    (h : v.shownText = w.shownText) : v = w := by
  obtain hv | ⟨m, rfl⟩ := hv <;> obtain hw | ⟨n, rfl⟩ := hw
  · have hwords : (words.map shownText).Nodup := by decide
    exact List.inj_on_of_nodup_map hwords hv hw h
  · exact absurd h.symm (shownText_int_ne n hv)
  · exact absurd h (shownText_int_ne m hw)
  · exact congrArg int (intText_inj h)

/-- A value without quotes is no string. -/
theorem shownText_append_ne {v : Value} (hv : v.Bare) {r : List Char}
    (hr : EndsPart r) (s : String) (t : List Char) :
    v.shownText.toList ++ r ≠ (string s).shownText.toList ++ t := by
  intro h
  rw [toList_shownText_string, List.cons_append, ← List.nil_append
    ('"' :: _)] at h
  obtain ⟨-, rfl⟩ := run_inj (isBareChar_of_mem_shownText hv)
    (List.forall_mem_nil _) (hr.endsRun rfl rfl) (endsRun_cons rfl _) h
  obtain hr | hr := hr <;> cases hr

/-- The text of a value says which value it is and where it ends. -/
theorem shownText_append_inj {v w : Value} (hv : v.Plain) (hw : w.Plain)
    {r s : List Char} (hr : EndsPart r) (hs : EndsPart s)
    (h : v.shownText.toList ++ r = w.shownText.toList ++ s) :
    v = w ∧ r = s := by
  obtain hv | ⟨a, rfl, ha, -⟩ := bare_or_string hv <;>
    obtain hw | ⟨b, rfl, hb, -⟩ := bare_or_string hw
  · obtain ⟨htexts, hrest⟩ := run_inj (isBareChar_of_mem_shownText hv)
      (isBareChar_of_mem_shownText hw) (hr.endsRun rfl rfl)
      (hs.endsRun rfl rfl) h
    exact ⟨shownText_inj hv hw (String.toList_inj.1 htexts), hrest⟩
  · exact absurd h (shownText_append_ne hv hr b s)
  · exact absurd h.symm (shownText_append_ne hw hs a r)
  · rw [toList_shownText_string, toList_shownText_string] at h
    have hinner : ∀ {t : String}, '"' ∉ t.toList →
        ∀ c ∈ t.toList, (c != '"') = true := fun ht c hc =>
      bne_iff_ne.2 (ne_of_mem_of_not_mem hc ht)
    simp only [List.cons_append, List.append_assoc, List.cons.injEq,
      true_and, List.nil_append] at h
    obtain ⟨htexts, hrest⟩ := run_inj (hinner ha) (hinner hb)
      (endsRun_cons rfl _) (endsRun_cons rfl _) h
    exact ⟨congrArg string (String.toList_inj.1 htexts),
      (List.cons.inj hrest).2⟩

theorem newline_not_mem_shownText {v : Value} (h : v.Plain) :
    '\n' ∉ v.shownText.toList := by
  obtain h | ⟨s, rfl, -, hs⟩ := bare_or_string h
  · intro hin
    cases isBareChar_of_mem_shownText h _ hin
  · simpa [toList_shownText_string] using hs

end Value

-- ========================================================== attributes

theorem toList_attrText (name : String) (value : Value) :
    (attrText name value).toList
      = ' ' :: (name.toList ++ '=' :: value.shownText.toList) := by
  have htext : attrText name value
      = " " ++ name ++ "=" ++ value.shownText := by
    cases value <;> rfl
  simp [htext]

/-- The characters of attributes. -/
def attrChars (entries : List (String × Value)) : List Char :=
  entries.flatMap fun e => (attrText e.1 e.2).toList

theorem Props.toList_attrsText (attrs : Props) :
    attrs.attrsText.toList = attrChars attrs.entries := by
  rw [attrsText, String.toList_join, attrChars, List.flatMap_map]

theorem attrChars_cons (name : String) (value : Value)
    (rest : List (String × Value)) (cs : List Char) :
    attrChars ((name, value) :: rest) ++ cs
      = ' ' :: (name.toList
          ++ '=' :: (value.shownText.toList ++ (attrChars rest ++ cs))) := by
  rw [attrChars, List.flatMap_cons, toList_attrText]
  simp [attrChars]

/-- Whether an attribute can be read off the markup. -/
def PlainEntry (e : String × Value) : Prop := Legible e.1 ∧ e.2.Plain

/-- Whether all attributes can be read off the markup. -/
def Props.Plain (attrs : Props) : Prop := ∀ e ∈ attrs.entries, PlainEntry e

/-- What ends a tag, which may close itself. -/
def tagEnd (closed : Bool) : String := if closed then " />" else ">"

theorem tagEnd_inj : ∀ a b : Bool,
    (tagEnd a).toList = (tagEnd b).toList → a = b := by
  decide

theorem endsPart_attrChars (entries : List (String × Value))
    (closed : Bool) :
    EndsPart (attrChars entries ++ (tagEnd closed).toList) := by
  cases entries with
  | nil =>
      cases closed with
      | true => exact .inl rfl
      | false => exact .inr rfl
  | cons e rest => exact .inl (by rw [attrChars_cons]; rfl)

/-- No attribute begins like the end of a tag. -/
theorem tagEnd_ne_attrChars {name : String} (h : Legible name)
    (closed : Bool) (cs : List Char) :
    (tagEnd closed).toList ≠ ' ' :: (name.toList ++ '=' :: cs) := by
  intro heq
  cases closed with
  | false => cases heq
  | true =>
      have hname : [] ++ ['/', '>'] = name.toList ++ '=' :: cs :=
        (List.cons.inj heq).2
      obtain ⟨-, hrest⟩ := run_inj (List.forall_mem_nil _) h
        (endsRun_cons rfl _) (endsRun_cons rfl _) hname
      cases hrest

/-- The texts of attributes and of the end of a tag tell which they
are. -/
theorem attrChars_inj {es fs : List (String × Value)}
    (hes : ∀ e ∈ es, PlainEntry e) (hfs : ∀ e ∈ fs, PlainEntry e)
    {a b : Bool} (h : attrChars es ++ (tagEnd a).toList
      = attrChars fs ++ (tagEnd b).toList) :
    es = fs ∧ a = b := by
  induction es generalizing fs with
  | nil =>
      cases fs with
      | nil => exact ⟨rfl, tagEnd_inj a b h⟩
      | cons f fs =>
          rw [attrChars_cons] at h
          exact absurd h
            (tagEnd_ne_attrChars (hfs f List.mem_cons_self).1 a _)
  | cons e es ih =>
      cases fs with
      | nil =>
          rw [attrChars_cons] at h
          exact absurd h.symm
            (tagEnd_ne_attrChars (hes e List.mem_cons_self).1 b _)
      | cons f fs =>
          obtain ⟨⟨hname, hvalue⟩, hrest⟩ := List.forall_mem_cons.1 hes
          obtain ⟨⟨hname', hvalue'⟩, hrest'⟩ := List.forall_mem_cons.1 hfs
          rw [attrChars_cons, attrChars_cons] at h
          obtain ⟨hnames, h⟩ := run_inj hname hname' (endsRun_cons rfl _)
            (endsRun_cons rfl _) (List.cons.inj h).2
          obtain ⟨hvalues, h⟩ := Value.shownText_append_inj hvalue hvalue'
            (endsPart_attrChars es a) (endsPart_attrChars fs b)
            (List.cons.inj h).2
          obtain ⟨rfl, rfl⟩ := ih hrest hrest' h
          exact ⟨congrArg (· :: es)
            (Prod.ext (String.toList_inj.1 hnames) hvalues), rfl⟩

theorem newline_not_mem_attrChars {es : List (String × Value)}
    (h : ∀ e ∈ es, PlainEntry e) : '\n' ∉ attrChars es := by
  intro hin
  obtain ⟨e, he, hin⟩ := List.mem_flatMap.1 hin
  rw [toList_attrText] at hin
  have hname : '\n' ∉ e.1.toList := fun hc => nomatch (h e he).1 _ hc
  have hvalue := Value.newline_not_mem_shownText (h e he).2
  simp [hname, hvalue] at hin

-- ================================================================= tags

/-- The text of a tag that opens an element, or is all of it. -/
def tagText (tag : String) (attrs : Props) (closed : Bool) : String :=
  "<" ++ tag ++ attrs.attrsText ++ tagEnd closed

theorem toList_tagText (tag : String) (attrs : Props) (closed : Bool) :
    (tagText tag attrs closed).toList = '<' :: (tag.toList
      ++ (attrChars attrs.entries ++ (tagEnd closed).toList)) := by
  simp [tagText, Props.toList_attrsText]

/-- A tag says what its name is, what its attributes are, in which order,
and whether it closes itself. -/
theorem tagText_inj {tag tag' : String} {attrs attrs' : Props}
    {closed closed' : Bool} (htag : Legible tag) (htag' : Legible tag')
    (hattrs : attrs.Plain) (hattrs' : attrs'.Plain)
    (h : tagText tag attrs closed = tagText tag' attrs' closed') :
    tag = tag' ∧ attrs = attrs' ∧ closed = closed' := by
  have hchars := congrArg String.toList h
  rw [toList_tagText, toList_tagText] at hchars
  obtain ⟨htags, hrest⟩ := run_inj htag htag'
    ((endsPart_attrChars _ _).endsRun rfl rfl)
    ((endsPart_attrChars _ _).endsRun rfl rfl) (List.cons.inj hchars).2
  obtain ⟨hentries, hclosed⟩ := attrChars_inj hattrs hattrs' hrest
  exact ⟨String.toList_inj.1 htags, OrdMap.ext_entries hentries, hclosed⟩

theorem newline_not_mem_tagText {tag : String} {attrs : Props}
    (htag : Legible tag) (hattrs : attrs.Plain) (closed : Bool) :
    '\n' ∉ (tagText tag attrs closed).toList := by
  have hname : '\n' ∉ tag.toList := fun hc => nomatch htag _ hc
  have hchars := newline_not_mem_attrChars hattrs
  have hend : '\n' ∉ (tagEnd closed).toList := by cases closed <;> decide
  simp [toList_tagText, hname, hchars, hend]

end RuledList
