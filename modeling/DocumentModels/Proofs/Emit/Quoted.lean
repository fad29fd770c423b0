/-
Quoted names of emitted modules, as they are read.

A module is read from the front. A quote begins a string; a backslash and the character behind it stand for one character of
the string, and the first quote without backslash ends it. A line feed or a carriage return may not stand in it as it is.
- `readQuoted`, `readString?`: the string at the front of a text, and what is left behind it.
- `readQuoted_char`: what is written for one character is read as that character, unless it may not stand there.
- `readQuoted_written`: the same for a whole string, by induction on its characters.
- `singleQuoted_cut`: quoted strings tell each other, whatever follows.
- `mem_singleQuoted`: a line feed is never written as it is, any other end of a line always.
- `singleQuoted_read`: the literal of a string is read as that string just when there is no carriage return in it.
- `return_unwritten`: a carriage return ends the line inside the literal.
-/
import Mathlib.Tactic
import DocumentModels.Emit.Literal

namespace DocumentModels.Emit

/-! ## Reading -/

/-- the character that a backslash and a character behind it stand for; a character that begins a numeric escape, or that
ends a line, stands for none -/
def unescaped? (c : Char) : Option Char :=
  if c = 'b' then some '\x08'
  else if c = 'f' then some '\x0c'
  else if c = 'n' then some '\n'
  else if c = 'r' then some '\r'
  else if c = 't' then some '\t'
  else if c = 'v' then some '\x0b'
  else if c.isDigit || c = 'x' || c = 'u' || c = '\n' || c = '\r' || c = '\u2028' || c = '\u2029' then none
  else some c

/-- the characters before the quote that ends a string, and what is left behind it; a character of `refused` may not stand
there as it is -/
def readQuoted (refused : Char → Bool) : List Char → Option (List Char × List Char)
  | [] => none
  | '\\' :: c :: rest =>
    (unescaped? c).bind fun d => (readQuoted refused rest).map fun read => (d :: read.1, read.2)
  | c :: rest =>
    if c = '\'' then some ([], rest)
    else if refused c then none
    else (readQuoted refused rest).map fun read => (c :: read.1, read.2)

/-- **The string at the front of a text,** and what is left behind it. -/
def readString? (refused : Char → Bool) : List Char → Option (List Char × List Char)
  | '\'' :: rest => readQuoted refused rest
  | _ => none

/-- what may not stand in a string as it is: the ends of lines, but for the line and the paragraph separator -/
def endsString (c : Char) : Bool := c = '\n' || c = '\r'

/-- no character -/
def anyCharacter (_ : Char) : Bool := false

/-! ## Strings as they are written -/

theorem toList_singleQuoted (s : String) :
    (singleQuoted s).toList = '\'' :: (s.toList.flatMap singleQuotedChar ++ ['\'']) := by
  simp [singleQuoted]

/-- only a line feed, a quote and a backslash are not written as they are -/
theorem singleQuotedChar_eq_self {c : Char} : singleQuotedChar c = [c] ↔ c ≠ '\\' ∧ c ≠ '\'' ∧ c ≠ '\n' := by
  unfold singleQuotedChar
  split_ifs with hbackslash hquote hfeed
  · simp [hbackslash]
  · simp [hquote]
  · simp [hfeed]
  · simp [hbackslash, hquote, hfeed]

section Written

variable (refused : Char → Bool)

theorem readQuoted_plain {c : Char} (hc : c ≠ '\\') (rest : List Char) :
    readQuoted refused (c :: rest) = if c = '\'' then some ([], rest) else if refused c then none
      else (readQuoted refused rest).map fun read => (c :: read.1, read.2) :=
  readQuoted.eq_3 refused c rest fun _ _ h _ => hc h

/-- **What is written for a character is read as that character,** unless it is refused and written as it is. -/
theorem readQuoted_char (c : Char) (rest : List Char) :
    readQuoted refused (singleQuotedChar c ++ rest)
      = if refused c ∧ singleQuotedChar c = [c] then none
        else (readQuoted refused rest).map fun read => (c :: read.1, read.2) := by
  by_cases hself : singleQuotedChar c = [c]
  · obtain ⟨hbackslash, hquote, -⟩ := singleQuotedChar_eq_self.1 hself
    rw [hself, List.singleton_append, readQuoted_plain refused hbackslash, if_neg hquote]
    simp
  · have hescaped : c = '\\' ∨ c = '\'' ∨ c = '\n' := by
      by_contra hnone
      simp only [not_or] at hnone
      exact hself (singleQuotedChar_eq_self.2 hnone)
    rw [if_neg fun h => hself h.2]
    rcases hescaped with rfl | rfl | rfl <;> rfl

/-- **What is written for a string is read as that string,** unless a character of it is refused. -/
theorem readQuoted_written (cs more : List Char) :
    readQuoted refused (cs.flatMap singleQuotedChar ++ '\'' :: more)
      = if cs.any fun c => refused c ∧ singleQuotedChar c = [c] then none else some (cs, more) := by
  induction cs with
  | nil => simp [readQuoted]
  | cons c cs ih =>
    rw [List.flatMap_cons, List.append_assoc, readQuoted_char, ih, List.any_cons]
    by_cases hc : refused c ∧ singleQuotedChar c = [c]
    · simp [hc]
    · rw [if_neg hc, decide_eq_false hc, Bool.false_or]
      split_ifs <;> rfl

end Written

theorem readString?_singleQuoted (s : String) (more : List Char) :
    readString? anyCharacter ((singleQuoted s).toList ++ more) = some (s.toList, more) := by
  rw [toList_singleQuoted, List.cons_append, List.append_assoc, readString?, List.singleton_append, readQuoted_written]
  simp [anyCharacter]

/-- **Quoted strings tell each other,** whatever follows. -/
theorem singleQuoted_cut {a b : String} {r s : List Char}
    (h : (singleQuoted a).toList ++ r = (singleQuoted b).toList ++ s) : a = b ∧ r = s := by
  have hread := readString?_singleQuoted a r
  rw [h, readString?_singleQuoted, Option.some.injEq, Prod.mk.injEq] at hread
  exact ⟨String.toList_injective hread.1.symm, hread.2.symm⟩

/-- **What stands in a literal:** an end of a line stands in it if it stands in the string and is not the line feed. -/
theorem mem_singleQuoted {s : String} {c : Char} (hc : endsString c = true) :
    c ∈ (singleQuoted s).toList ↔ c ∈ s.toList ∧ c ≠ '\n' := by
  have hends : c = '\n' ∨ c = '\r' := by simpa [endsString] using hc
  have hchar : ∀ d, c ∈ singleQuotedChar d ↔ c = d ∧ c ≠ '\n' := by
    intro d
    unfold singleQuotedChar
    split_ifs with hbackslash hquote hfeed
    · rcases hends with rfl | rfl <;> simp [hbackslash]
    · rcases hends with rfl | rfl <;> simp [hquote]
    · rcases hends with rfl | rfl <;> simp [hfeed]
    · rcases hends with rfl | rfl <;> simp [Ne.symm hfeed]
  have hquote : c ≠ '\'' := by
    rcases hends with rfl | rfl <;> decide
  rw [toList_singleQuoted]
  simp only [List.mem_cons, List.mem_append, List.mem_flatMap, hchar, hquote, false_or, List.not_mem_nil, or_false]
  constructor
  · rintro ⟨d, hd, rfl, hfeed⟩
    exact ⟨hd, hfeed⟩
  · rintro ⟨hs, hfeed⟩
    exact ⟨c, hs, rfl, hfeed⟩

/-- **Quoted strings are read back.** The literal of a string is read as that string, to the quote that ends it and to no
earlier one, and what the module goes on with is left. No line ends in it but by a carriage return of the string itself;
with that there is no literal, and this is the only exception. Two strings are never written alike. -/
theorem singleQuoted_read (s : String) :
    (∀ more, readString? endsString ((singleQuoted s).toList ++ more)
      = if '\r' ∈ s.toList then none else some (s.toList, more)) ∧
    (∀ more, readString? anyCharacter ((singleQuoted s).toList ++ more) = some (s.toList, more)) ∧
    '\n' ∉ (singleQuoted s).toList ∧ ('\r' ∈ (singleQuoted s).toList ↔ '\r' ∈ s.toList) ∧
    ∀ t, singleQuoted t = singleQuoted s → t = s := by
  have hrefused : (s.toList.any fun c => endsString c ∧ singleQuotedChar c = [c]) = true ↔ '\r' ∈ s.toList := by
    simp only [List.any_eq_true, decide_eq_true_eq]
    constructor
    · rintro ⟨c, hc, hends, hself⟩
      have hfeed := (singleQuotedChar_eq_self.1 hself).2.2
      have hreturn : c = '\r' := by simpa [endsString, hfeed] using hends
      exact hreturn ▸ hc
    · intro hreturn
      exact ⟨'\r', hreturn, rfl, rfl⟩
  refine ⟨?_, readString?_singleQuoted s, ?_, ?_, ?_⟩
  · intro more
    rw [toList_singleQuoted, List.cons_append, List.append_assoc, readString?, List.singleton_append, readQuoted_written]
    simp only [hrefused]
  · rw [mem_singleQuoted rfl]
    simp
  · rw [mem_singleQuoted rfl]
    simp
  · intro t h
    exact (@singleQuoted_cut t s [] [] (by rw [h])).1

/-- A carriage return is written as it stands, and the line ends inside the literal. -/
theorem return_unwritten :
    singleQuoted "a\rb" = "'a\rb'" ∧ readString? endsString (singleQuoted "a\rb").toList = none := by
  decide

end DocumentModels.Emit
