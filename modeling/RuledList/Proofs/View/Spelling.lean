/-
A text survives being spelled as a string literal and read back
(`textOfLiteral?_spelling`). Every character is spelled so that the
reader takes just that spelling and gives back just that character,
whatever follows (`quotedBody?_spelled`); the one spelling that depends
on what follows is that of U+0000, which is a shorter escape unless an
octal digit comes next.

Code points are the part with an argument in it: the digits come most
significant first, as reading needs them, and there are at most six,
because a character is below U+110000.
-/
import RuledList.View.Token.Literal
import RuledList.View.Token.Spelling

namespace RuledList.View

-- =========================================================== code points

/-- A digit in base sixteen is read as its value, and as nothing else
that may stand between the braces. -/
theorem hexValue?_digitChar : ∀ d : Fin 16,
    Text.hexValue? (Nat.digitChar d) = some d.val
      ∧ Nat.digitChar d ≠ '_' ∧ Nat.digitChar d ≠ '\x7d' := by
  decide

/-- Reading one more digit. -/
theorem codePoint?_digit {d : Nat} (hd : d < 16) {count : Nat}
    (hcount : count < 6) (value : Nat) (rest : List Char) :
    codePoint? count value (Nat.digitChar d :: rest)
      = codePoint? (count + 1) (value * 16 + d) rest := by
  obtain ⟨hvalue, hlow, hclose⟩ := hexValue?_digitChar ⟨d, hd⟩
  have hvalue' : Text.hexValue? (Nat.digitChar d) = some d := hvalue
  have hlow' : (Nat.digitChar d == '_') = false := beq_false_of_ne hlow
  have hclose' : (Nat.digitChar d == '\x7d') = false :=
    beq_false_of_ne hclose
  rw [codePoint?]
  simp only [hlow', hclose', hvalue', Bool.false_and, if_pos hcount]
  rfl

/-- Reading all digits of a number. -/
theorem codePoint?_toDigits (n : Nat) : ∀ (count value : Nat)
    (rest : List Char), count + (Nat.toDigits 16 n).length ≤ 6 →
    codePoint? count value (Nat.toDigits 16 n ++ rest)
      = codePoint? (count + (Nat.toDigits 16 n).length)
          (value * Nat.pow 16 (Nat.toDigits 16 n).length + n) rest := by
  induction n using Nat.strongRecOn with
  | ind n ih =>
      intro count value rest hlen
      by_cases hn : n < 16
      · rw [Nat.toDigits_of_lt_base hn] at hlen ⊢
        rw [List.length_singleton] at hlen ⊢
        rw [List.singleton_append, codePoint?_digit hn (by omega)]
      · have hdigits := Nat.toDigits_of_base_le (b := 16) (n := n)
          (by omega) (by omega)
        rw [hdigits, List.length_append, List.length_singleton] at hlen ⊢
        have hmod : n % 16 < 16 := Nat.mod_lt n (by omega)
        let k := (Nat.toDigits 16 (n / 16)).length
        rw [List.append_assoc, List.singleton_append,
          ih (n / 16) (by omega) count value _ (by omega),
          codePoint?_digit hmod (by omega)]
        have hvalue : (value * Nat.pow 16 k + n / 16) * 16 + n % 16
            = value * Nat.pow 16 (k + 1) + n := by
          have hpow : Nat.pow 16 (k + 1) = Nat.pow 16 k * 16 := rfl
          have hsplit := Nat.div_add_mod n 16
          rw [Nat.add_mul, hpow, Nat.mul_assoc]
          omega
        rw [hvalue, Nat.add_assoc]

/-- The number of a character is read as that character. -/
theorem codePoint?_hex (c : Char) (rest : List Char) :
    codePoint? 0 0 ((Text.hex c.toNat).toList ++ '\x7d' :: rest)
      = some (c, rest) := by
  have hvalid : c.toNat < 0xd800 ∨ 0xdfff < c.toNat ∧ c.toNat < 0x110000 :=
    c.valid
  have hlen : (Nat.toDigits 16 c.toNat).length ≤ 6 := by
    rw [Nat.length_toDigits_le_iff (by omega) (by omega)]
    omega
  have hpos : 0 < (Nat.toDigits 16 c.toNat).length :=
    Nat.length_toDigits_pos
  rw [Text.hex, String.toList_ofList,
    codePoint?_toDigits c.toNat 0 0 _ (by omega), codePoint?]
  simp only [Nat.zero_add, Nat.zero_mul, hpos, hvalid, decide_true,
    Bool.and_true, if_true, Char.ofNat_toNat]
  rfl

-- ============================================================ characters

/-- A backslash before anything but the end of a line is the beginning of
an escape. -/
theorem quotedBody?_escape (cs more : List Char) (c : Char)
    (hline : lineEnd? cs = none)
    (hescape : escape? .text cs = some (c, more)) (fuel : Nat) :
    quotedBody? .text (fuel + 1) ('\\' :: cs)
      = (quotedBody? .text fuel more).map fun (v, rest) =>
          (c :: v, rest) := by
  rw [quotedBody?]
  simp only [hline, hescape]

/-- A code point escape stands for the character of that number. -/
theorem escape?_hex (c : Char) (more : List Char) :
    escape? .text ('u' :: '\x7b' :: ((Text.hex c.toNat).toList
      ++ '\x7d' :: more)) = some (c, more) := by
  show (codePoint? 0 0 _).bind _ = _
  rw [codePoint?_hex c more]
  rfl

/-- A character that shows is taken as it is. -/
theorem quotedBody?_plain {c : Char} (hquote : c ≠ '"')
    (hslash : c ≠ '\\') (hreturn : c ≠ '\r') (fuel : Nat)
    (more : List Char) :
    quotedBody? .text (fuel + 1) (c :: more)
      = (quotedBody? .text fuel more).map fun (v, rest) =>
          (c :: v, rest) := by
  rw [quotedBody?]
  · rfl
  · exact hquote
  · intro rest hc
    exact absurd hc hreturn
  · exact hreturn
  · exact hslash

/-- A character in inspection quotes is read as that character. -/
theorem quotedBody?_quotedChar (c : Char) (fuel : Nat)
    (more : List Char) :
    quotedBody? .text (fuel + 1) ((Text.quotedChar c).toList ++ more)
      = (quotedBody? .text fuel more).map fun (v, rest) =>
          (c :: v, rest) := by
  unfold Text.quotedChar
  split
  · exact quotedBody?_escape _ _ _ rfl rfl fuel
  · exact quotedBody?_escape _ _ _ rfl rfl fuel
  · exact quotedBody?_escape _ _ _ rfl rfl fuel
  · exact quotedBody?_escape _ _ _ rfl rfl fuel
  · exact quotedBody?_escape _ _ _ rfl rfl fuel
  · exact quotedBody?_escape _ _ _ rfl rfl fuel
  · next hquote hslash _ hreturn _ _ =>
    split
    · rw [Char.toString_eq_singleton, String.toList_singleton]
      exact quotedBody?_plain hquote hslash hreturn fuel more
    · have hcode := quotedBody?_escape
        ('u' :: '\x7b' :: ((Text.hex c.toNat).toList
          ++ '\x7d' :: more)) more c rfl (escape?_hex c more) fuel
      rw [← hcode, String.toList_append, String.toList_append,
        List.append_assoc, List.append_assoc]
      rfl

theorem quotedChar_pos (c : Char) :
    0 < (Text.quotedChar c).toList.length := by
  unfold Text.quotedChar
  split
  case h_7 =>
    split
    · rw [Char.toString_eq_singleton, String.toList_singleton]
      exact Nat.one_pos
    · rw [String.toList_append, String.toList_append,
        List.length_append, List.length_append]
      exact Nat.add_pos_right _ Nat.one_pos
  all_goals exact Nat.succ_pos _

/-- U+0000 is read as itself, however it is spelled. -/
theorem quotedBody?_nulSpelling (next : List Char) (fuel : Nat)
    (more : List Char) :
    quotedBody? .text (fuel + 1) ((nulSpelling next).toList ++ more)
      = (quotedBody? .text fuel more).map fun (v, rest) =>
          ('\x00' :: v, rest) := by
  have hshort := quotedBody?_escape ('0' :: more) more '\x00' rfl rfl
    fuel
  unfold nulSpelling
  split
  · split
    · exact quotedBody?_escape _ _ _ rfl rfl fuel
    · exact hshort
  · exact hshort

/-- A spelled text is read back, and what follows its closing quote is
left. Each character takes one step, however long its spelling. -/
theorem quotedBody?_spelled (cs : List Char) : ∀ (fuel : Nat)
    (rest : List Char), cs.length < fuel →
    quotedBody? .text fuel ((spelledChars cs).toList ++ '"' :: rest)
      = some (cs, rest) := by
  induction cs with
  | nil =>
      intro fuel rest hfuel
      cases fuel with
      | zero => cases hfuel
      | succ fuel => rfl
  | cons c cs ih =>
      intro fuel rest hfuel
      cases fuel with
      | zero => cases hfuel
      | succ fuel =>
          have hrest := ih fuel rest (Nat.lt_of_succ_lt_succ hfuel)
          by_cases hc : c = '\x00'
          · rw [hc, spelledChars, String.toList_append, List.append_assoc,
              quotedBody?_nulSpelling, hrest]
            rfl
          · rw [spelledChars, String.toList_append, List.append_assoc,
              quotedBody?_quotedChar, hrest]
            · rfl
            · exact hc

/-- A spelling is no shorter than what it spells. -/
theorem length_le_spelled (cs : List Char) :
    cs.length ≤ (spelledChars cs).toList.length := by
  induction cs with
  | nil => exact Nat.le_refl 0
  | cons c cs ih =>
      rw [List.length_cons, Nat.add_comm]
      by_cases hc : c = '\x00'
      · rw [hc, spelledChars, String.toList_append, List.length_append]
        refine Nat.add_le_add ?_ ih
        unfold nulSpelling
        split
        · split <;> exact Nat.succ_pos _
        · exact Nat.succ_pos _
      · rw [spelledChars, String.toList_append, List.length_append]
        · exact Nat.add_le_add (quotedChar_pos c) ih
        · exact hc

/-- Every text has a spelling: the literal that spells it stands for
it. -/
theorem textOfLiteral?_spelling (s : String) :
    textOfLiteral? (spelling s) = some s := by
  have hlist : (spelling s).toList
      = '"' :: ((spelledChars s.toList).toList ++ ['"']) := by
    unfold spelling
    rw [String.toList_append, String.toList_append, List.append_assoc]
    rfl
  have hbody := quotedBody?_spelled s.toList
    (((spelledChars s.toList).toList ++ ['"']).length + 1) [] (by
      have hle := length_le_spelled s.toList
      rw [List.length_append]
      omega)
  unfold textOfLiteral? textLiteral?
  rw [hlist, stringOf?, hbody]
  show some (String.ofList s.toList) = some s
  rw [String.ofList_toList]

end RuledList.View
