/-
Regular expressions of emitted modules, as they are read.

A module is read from the front. A slash that begins an expression is followed by a body, in which a backslash takes the next
character with it, brackets open and close a class, and the first slash outside of a class ends the expression. No line may
end on the way, not even behind a backslash, and a star or a slash at the front would begin a comment.
- `readBody`, `readExpression?`: what is left of a text behind the expression at its front, if there is one.
- `Writable`: what a pattern must be like, said of the pattern alone.
- `readBody_regexBody`: a body is read to its end just when its pattern is writable, by induction on how it is written.
- `head?_regexBody`: a body begins with a star just when its pattern does, and never with a slash.
- `readBody_append`: what stands behind an expression is of no account.
- `regexLiteral_read_iff`: the literal of a pattern is read as one expression just when the pattern is writable.
- `left_unwritten`: a pattern for each condition that fails without it.
-/
import Mathlib.Tactic
import DocumentModels.Proofs.Emit.Literal

namespace DocumentModels.Emit

/-! ## Reading -/

/-- whether a line of a module ends at a character: a line feed, a carriage return, a line or paragraph separator -/
def endsLine (c : Char) : Bool := c = '\n' || c = '\r' || c = '\u2028' || c = '\u2029'

/-- whether a class is open behind a character -/
def classAfter (inClass : Bool) (c : Char) : Bool :=
  if c = '[' then true else if c = ']' then false else inClass

/-- what is left behind the slash that ends a body -/
def readBody (inClass : Bool) : List Char → Option (List Char)
  | [] => none
  | '\\' :: c :: rest => if endsLine c then none else readBody inClass rest
  | c :: rest =>
    if endsLine c then none
    else if c = '/' ∧ inClass = false then some rest
    else readBody (classAfter inClass c) rest

/-- **What is left of a text behind the regular expression at its front;** a body is not empty and does not begin with a
star. -/
def readExpression? : List Char → Option (List Char)
  | '/' :: c :: rest => if c = '/' ∨ c = '*' then none else readBody false (c :: rest)
  | _ => none

/-! ## Patterns that can be written -/

/-- the characters of a pattern that stand behind a backslash -/
def escaped : List Char → List Char
  | [] => []
  | '\\' :: c :: rest => c :: escaped rest
  | _ :: rest => escaped rest

/-- whether a class is open at the end of a pattern -/
def endsInClass (inClass : Bool) : List Char → Bool
  | [] => inClass
  | '\\' :: _ :: rest => endsInClass inClass rest
  | c :: rest => endsInClass (classAfter inClass c) rest

/-- a pattern can be written as a body: it ends no line but by a line feed, and by that not behind a backslash; its last
backslash escapes something; and its last class is closed -/
structure WritableBody (inClass : Bool) (pattern : List Char) : Prop where
  lines : ∀ c ∈ pattern, endsLine c = true → c = '\n'
  feeds : '\n' ∉ escaped pattern
  complete : endsLoose pattern = false
  closed : endsInClass inClass pattern = false

/-- **A pattern can be written:** as a body, and not beginning with a star. -/
structure Writable (pattern : List Char) : Prop where
  body : WritableBody false pattern
  front : pattern.head? ≠ some '*'

section Steps

variable {c : Char} {rest : List Char} (inClass : Bool)

theorem writableBody_escaped :
    WritableBody inClass ('\\' :: c :: rest) ↔ endsLine c = false ∧ WritableBody inClass rest := by
  constructor
  · rintro ⟨hlines, hfeeds, hcomplete, hclosed⟩
    rw [escaped, List.mem_cons, not_or] at hfeeds
    refine ⟨?_, fun d hd => hlines d (by simp [hd]), hfeeds.2, hcomplete, hclosed⟩
    rw [Bool.eq_false_iff]
    intro hc
    exact hfeeds.1 (hlines c (by simp) hc).symm
  · rintro ⟨hc, hlines, hfeeds, hcomplete, hclosed⟩
    refine ⟨?_, ?_, hcomplete, hclosed⟩
    · intro d hd hends
      rcases List.mem_cons.1 hd with rfl | hd
      · exact absurd hends (by decide)
      · rcases List.mem_cons.1 hd with rfl | hd
        · rw [hc] at hends
          cases hends
        · exact hlines d hd hends
    · rw [escaped, List.mem_cons, not_or]
      refine ⟨?_, hfeeds⟩
      rintro rfl
      exact absurd hc (by decide)

theorem writableBody_plain (hc : c ≠ '\\') :
    WritableBody inClass (c :: rest) ↔ (endsLine c = true → c = '\n') ∧ WritableBody (classAfter inClass c) rest := by
  have hescaped : escaped (c :: rest) = escaped rest := escaped.eq_3 _ _ fun _ _ h _ => hc h
  have hloose : endsLoose (c :: rest) = endsLoose rest := endsLoose.eq_4 _ _ (fun h _ => hc h) fun _ _ h _ => hc h
  have hopen : endsInClass inClass (c :: rest) = endsInClass (classAfter inClass c) rest :=
    endsInClass.eq_3 _ _ _ fun _ _ h _ => hc h
  constructor
  · rintro ⟨hlines, hfeeds, hcomplete, hclosed⟩
    rw [hescaped] at hfeeds
    rw [hloose] at hcomplete
    rw [hopen] at hclosed
    exact ⟨hlines c List.mem_cons_self, fun d hd => hlines d (List.mem_cons_of_mem c hd), hfeeds, hcomplete, hclosed⟩
  · rintro ⟨hline, hlines, hfeeds, hcomplete, hclosed⟩
    exact ⟨List.forall_mem_cons.2 ⟨hline, hlines⟩, hescaped ▸ hfeeds, hloose ▸ hcomplete, hopen ▸ hclosed⟩

theorem readBody_plain (hc : c ≠ '\\') :
    readBody inClass (c :: rest) = if endsLine c then none else if c = '/' ∧ inClass = false then some rest
      else readBody (classAfter inClass c) rest :=
  readBody.eq_3 _ _ _ fun _ _ h _ => hc h

end Steps

/-- **A body is read to its end just when its pattern is writable.** -/
theorem readBody_regexBody (pattern : List Char) (inClass : Bool) :
    readBody inClass (regexBody pattern ++ ['/']) = some [] ↔ WritableBody inClass pattern := by
  induction pattern using regexBody.induct generalizing inClass with
  | case1 =>
    cases inClass with
    | false => exact iff_of_true rfl ⟨by simp, by simp [escaped], rfl, rfl⟩
    | true => exact iff_of_false (by simp [regexBody, readBody]) fun h => absurd h.closed (by simp [endsInClass])
  | case2 => exact iff_of_false (by simp [regexBody, readBody]) fun h => absurd h.complete (by simp [endsLoose])
  | case3 c rest ih =>
    rw [writableBody_escaped, ← ih, regexBody, List.cons_append, List.cons_append, readBody]
    cases endsLine c <;> simp
  | case4 rest hlone hescape ih =>
    rw [writableBody_plain _ (by decide), regexBody.eq_4 _ _ hlone hescape, if_pos rfl]
    exact (ih inClass).trans (iff_and_self.2 fun _ => by decide)
  | case5 rest hlone hescape hslash ih =>
    rw [writableBody_plain _ (by decide), regexBody.eq_4 _ _ hlone hescape, if_neg hslash, if_pos rfl]
    exact (ih inClass).trans (iff_and_self.2 fun _ => by decide)
  | case6 c rest hlone hescape hslash hfeed ih =>
    have hc : c ≠ '\\' := by
      rintro rfl
      cases rest with
      | nil => exact hlone rfl rfl
      | cons d rest => exact hescape d rest rfl rfl
    rw [writableBody_plain _ hc, regexBody.eq_4 _ _ hlone hescape, if_neg hslash, if_neg hfeed, List.cons_append,
      readBody_plain _ hc, ← ih]
    cases endsLine c <;> simp [hslash, hfeed]

/-- a body begins with a star just when its pattern does, and never with a slash -/
theorem head?_regexBody (c : Char) (rest : List Char) :
    ∃ d more, regexBody (c :: rest) = d :: more ∧ d ≠ '/' ∧ (d = '*' ↔ c = '*') := by
  by_cases hbackslash : c = '\\'
  · subst hbackslash
    cases rest with
    | nil => exact ⟨_, _, rfl, by decide, by decide⟩
    | cons d rest => exact ⟨_, _, rfl, by decide, by decide⟩
  · rw [regexBody.eq_4 _ _ (fun h _ => hbackslash h) (fun _ _ h _ => hbackslash h)]
    split_ifs with hslash hfeed
    · exact ⟨_, _, rfl, by decide, by simp [hslash]⟩
    · exact ⟨_, _, rfl, by decide, by simp [hfeed]⟩
    · exact ⟨_, _, rfl, hslash, Iff.rfl⟩

/-- what stands behind an expression is of no account -/
theorem readBody_append {inClass : Bool} {text left : List Char} (h : readBody inClass text = some left)
    (more : List Char) : readBody inClass (text ++ more) = some (left ++ more) := by
  induction inClass, text using readBody.induct with
  | case1 inClass => cases h
  | case2 inClass c rest hends => simp [readBody, hends] at h
  | case3 inClass c rest hends ih =>
    simp only [readBody, hends, Bool.false_eq_true, if_false] at h
    simp only [List.cons_append, readBody, hends, Bool.false_eq_true, if_false]
    exact ih h
  | case4 inClass c rest hlone hends => simp [readBody.eq_3 _ _ _ hlone, hends] at h
  | case5 inClass c rest hlone hends hslash =>
    obtain ⟨rfl, rfl⟩ := hslash
    cases h
    rfl
  | case6 inClass c rest hlone hends hslash ih =>
    have hc : c ≠ '\\' := by
      rintro rfl
      cases rest with
      | nil => cases h
      | cons d rest => exact hlone d rest rfl rfl
    rw [readBody_plain _ hc, if_neg hends, if_neg hslash] at h
    rw [List.cons_append, readBody_plain _ hc, if_neg hends, if_neg hslash]
    exact ih h

/-! ## Literals -/

theorem writable_written {pattern : String} : Writable (written pattern) ↔ Writable pattern.toList := by
  unfold written
  split_ifs with hempty
  · rw [String.isEmpty_iff.1 hempty]
    have hgroup : ∀ c ∈ ['(', '?', ':', ')'], endsLine c = true → c = '\n' := by simp [endsLine]
    have hempty : ∀ c ∈ [], endsLine c = true → c = '\n' := by simp
    exact iff_of_true ⟨⟨hgroup, by decide, rfl, rfl⟩, by decide⟩ ⟨⟨hempty, by decide, rfl, rfl⟩, by decide⟩
  · rfl

theorem written_ne_nil (pattern : String) : written pattern ≠ [] := by
  unfold written
  split_ifs with hempty
  · decide
  · intro h
    exact hempty (String.isEmpty_iff.2 (String.toList_eq_nil_iff.1 h))

/-- **The literal of a pattern is read as one expression, to its last character, just when the pattern is writable;** and
then whatever the module goes on with is left. -/
theorem regexLiteral_read_iff (pattern : String) :
    (readExpression? (regexLiteral pattern).toList = some [] ↔ Writable pattern.toList) ∧
    (Writable pattern.toList → ∀ more, readExpression? ((regexLiteral pattern).toList ++ more) = some more) := by
  rw [← writable_written, toList_regexLiteral]
  obtain ⟨c, rest, hwritten⟩ := List.exists_cons_of_ne_nil (written_ne_nil pattern)
  rw [hwritten]
  obtain ⟨d, body, hbody, hslash, hstar⟩ := head?_regexBody c rest
  have hread : ∀ more, readExpression? ('/' :: regexBody (c :: rest) ++ ['/'] ++ more) =
      if c = '*' then none else readBody false (regexBody (c :: rest) ++ ['/'] ++ more) := by
    intro more
    simp [hbody, readExpression?, hslash, hstar]
  have hwhole := readBody_regexBody (c :: rest) false
  have hfront : Writable (c :: rest) ↔ c ≠ '*' ∧ WritableBody false (c :: rest) :=
    ⟨fun h => ⟨fun hc => h.front (by rw [hc]; rfl), h.body⟩, fun h => ⟨h.2, by simpa using h.1⟩⟩
  rw [hfront]
  constructor
  · have hnone := hread []
    rw [List.append_nil, List.append_nil] at hnone
    rw [hnone, ← hwhole]
    split_ifs with hc
    · simp [hc]
    · simp [hc]
  · rintro ⟨hc, hbodyWritable⟩ more
    rw [hread, if_neg hc]
    exact readBody_append (hwhole.2 hbodyWritable) more

/-- A carriage return and a line separator are written as they stand, and so is a line feed behind a backslash; a backslash
at the end escapes the slash, a star at the front begins a comment, and an open class hides the slash. -/
theorem left_unwritten :
    regexLiteral "a\rb" = "/a\rb/" ∧
    readExpression? (regexLiteral "a\rb").toList = none ∧
    readExpression? (regexLiteral "a\u2028b").toList = none ∧
    readExpression? (regexLiteral "\\\n").toList = none ∧
    readExpression? (regexLiteral "a\\").toList = none ∧
    readExpression? (regexLiteral "*a").toList = none ∧
    readExpression? (regexLiteral "[a").toList = none := by
  decide

end DocumentModels.Emit
